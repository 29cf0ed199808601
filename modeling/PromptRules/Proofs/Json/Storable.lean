import Mathlib.Data.List.Nodup
import Mathlib.Data.List.TakeWhile
import PromptRules.Data.Json.Reader
import PromptRules.Proofs.Data.Outcome
import PromptRules.Proofs.Decimal.Written

/-!
# Values that a text in JSON can hold

What the reader gives is no deeper than its room, has no integer with too many digits, and no map in
it has a key twice: an entry whose key was read before takes the place of the entry before it.

Results:
* `storable_of_readScalar`, `storable_of_readValue`: what is read can be held, kind by kind.
* `storable_of_read`: so whatever is read can be held.
-/

namespace PromptRules.Data

/-- A value that a text in JSON can hold, with containers nested at most `room` deep: every integer
    has not too many digits, and no map has a key twice. -/
inductive Tree.Storable : Nat → Tree → Prop
  | null {room} : Storable room .null
  | bool {room} (b : Bool) : Storable room (.bool b)
  | int {room} {n : Int} (h : n.natAbs < 10 ^ Decimal.maxDigits) : Storable room (.int n)
  | float {room} (x : Float) : Storable room (.float x)
  | text {room} (s : String) : Storable room (.text s)
  | list {room} {items : List Tree} (h : ∀ t ∈ items, Storable room t) :
      Storable (room + 1) (.list items)
  | map {room} {entries : Record} (hkeys : (Assoc.keys entries).Nodup)
      (h : ∀ e ∈ entries, Storable room e.2) : Storable (room + 1) (.map entries)

namespace Tree

variable {room : Nat} {items : List Tree} {entries : Record}

theorem storable_list_iff :
    (list items).Storable (room + 1) ↔ ∀ t ∈ items, t.Storable room := by
  constructor
  · intro h
    cases h with
    | list h => exact h
  · exact .list

theorem storable_map_iff :
    (map entries).Storable (room + 1) ↔
      (Assoc.keys entries).Nodup ∧ ∀ e ∈ entries, e.2.Storable room := by
  constructor
  · intro h
    cases h with
    | map hkeys h => exact ⟨hkeys, h⟩
  · rintro ⟨hkeys, h⟩
    exact .map hkeys h

end Tree

namespace Json

open Decimal Text

variable {room : Nat} {t : Tree} {cs rest : List Char}

/-! ## Scalars -/

theorem isDigit_of_asciiDigits (cs : List Char) : ∀ c ∈ (asciiDigits cs).1, c.isDigit = true :=
  fun _ hc => List.mem_takeWhile_imp hc

theorem isDigit_of_wholePart {p : List Char × List Char} (h : wholePart cs = some p) :
    ∀ c ∈ p.1, c.isDigit = true := by
  unfold wholePart at h
  split at h
  · cases h
    simp
  · split at h
    · cases h
      exact isDigit_of_asciiDigits _
    · cases h
  · cases h

/-- An integer that is read has not too many digits. -/
theorem storable_of_readNumber {negative : Bool} (h : readNumber negative cs = .ok (t, rest)) :
    Tree.Storable room t := by
  unfold readNumber at h
  split at h
  · cases h
  · rename_i whole _ hwhole
    simp only at h
    split at h
    · split at h
      · rename_i n hn
        cases h
        obtain ⟨hlen, rfl⟩ := readNat_eq_ok_iff.1 hn
        have hdigits : ∀ d ∈ whole.map fun c => c.toNat - 0x30, d < 10 := by
          intro d hd
          obtain ⟨c, hc, rfl⟩ := List.mem_map.1 hd
          exact digitValue_lt (digitValue_of_isDigit (isDigit_of_wholePart hwhole c hc))
        have hlt := ofDigits_lt hdigits
        refine .int (lt_of_lt_of_le ?_ (Nat.pow_le_pow_right (by decide) hlen))
        split <;> simpa using hlt
      · cases h
    · cases h
      exact .float _

theorem storable_of_readScalar (h : readScalar cs = .ok (t, rest)) : Tree.Storable room t := by
  unfold readScalar at h
  split at h
  · cases h; exact .null
  · cases h; exact .bool _
  · cases h; exact .bool _
  · cases h; exact .float _
  · split at h
    · cases h; exact .float _
    · exact storable_of_readNumber h
  · split at h
    · cases h; exact .float _
    · exact storable_of_readNumber h

/-! ## Containers -/

mutual

/-- What is read can be held, container by container. -/
theorem storable_of_readValue : ∀ (fuel : Nat) {room : Nat} {cs rest : List Char} {t : Tree},
    readValue fuel room cs = .ok (t, rest) → Tree.Storable room t
  | 0, _, _, _, _, h => by
    rw [readValue] at h
    cases h
  | fuel + 1, room, cs, rest, t, h => by
    unfold readValue at h
    split at h
    · split at h
      · cases h
        exact .text _
      · cases h
    · exact storable_of_readList fuel h
    · exact storable_of_readMap fuel h
    · exact storable_of_readScalar h

theorem storable_of_readList : ∀ (fuel : Nat) {room : Nat} {cs rest : List Char} {t : Tree},
    readList fuel room cs = .ok (t, rest) → Tree.Storable room t
  | 0, _, _, _, _, h => by
    rw [readList] at h
    cases h
  | fuel + 1, 0, _, _, _, h => by
    rw [readList] at h
    · cases h
    · simp
  | fuel + 1, room + 1, cs, rest, t, h => by
    unfold readList at h
    split at h
    · cases h
      exact .list (List.forall_mem_nil _)
    · obtain ⟨_, hitems, h⟩ := bind_eq_ok_iff.1 h
      cases h
      exact .list (storable_of_readItems fuel hitems)

theorem storable_of_readMap : ∀ (fuel : Nat) {room : Nat} {cs rest : List Char} {t : Tree},
    readMap fuel room cs = .ok (t, rest) → Tree.Storable room t
  | 0, _, _, _, _, h => by
    rw [readMap] at h
    cases h
  | fuel + 1, 0, _, _, _, h => by
    rw [readMap] at h
    · cases h
    · simp
  | fuel + 1, room + 1, cs, rest, t, h => by
    unfold readMap at h
    split at h
    · cases h
      exact .map List.nodup_nil (List.forall_mem_nil _)
    · obtain ⟨_, hentries, h⟩ := bind_eq_ok_iff.1 h
      cases h
      have hnil : (Assoc.keys ([] : Record)).Nodup := List.nodup_nil
      obtain ⟨hkeys, hvalues⟩ :=
        storable_of_readEntries fuel hnil (List.forall_mem_nil _) hentries
      exact .map hkeys hvalues

theorem storable_of_readItems : ∀ (fuel : Nat) {room : Nat} {cs rest : List Char}
    {items : List Tree}, readItems fuel room cs = .ok (items, rest) →
      ∀ t ∈ items, Tree.Storable room t
  | 0, _, _, _, _, h => by
    rw [readItems] at h
    cases h
  | fuel + 1, room, cs, rest, items, h => by
    rw [readItems] at h
    obtain ⟨⟨item, behind⟩, hitem, h⟩ := bind_eq_ok_iff.1 h
    have hstorable := storable_of_readValue fuel hitem
    dsimp only at h
    split at h
    · obtain ⟨_, hmore, h⟩ := bind_eq_ok_iff.1 h
      cases h
      exact List.forall_mem_cons.2 ⟨hstorable, storable_of_readItems fuel hmore⟩
    · cases h
      exact List.forall_mem_singleton.2 hstorable
    · cases h

theorem storable_of_readEntries : ∀ (fuel : Nat) {room : Nat} {read : Record}
    {cs rest : List Char} {entries : Record}, (Assoc.keys read).Nodup →
      (∀ e ∈ read, Tree.Storable room e.2) → readEntries fuel room read cs = .ok (entries, rest) →
      (Assoc.keys entries).Nodup ∧ ∀ e ∈ entries, Tree.Storable room e.2
  | 0, _, _, _, _, _, _, _, h => by
    rw [readEntries] at h
    cases h
  | fuel + 1, room, read, cs, rest, entries, hkeys, hvalues, h => by
    unfold readEntries at h
    split at h
    · split at h
      · cases h
      · split at h
        · rename_i key _ _ _ _ _
          obtain ⟨⟨value, behind⟩, hvalue, h⟩ := bind_eq_ok_iff.1 h
          have hkeys' := Assoc.nodup_keys_put hkeys key value
          have hvalues' := Assoc.forall_mem_put (k := key) hvalues
            (storable_of_readValue fuel hvalue)
          dsimp only at h
          split at h
          · exact storable_of_readEntries fuel hkeys' hvalues' h
          · cases h
            exact ⟨hkeys', hvalues'⟩
          · cases h
        · cases h
    · cases h

end

/-- **A text that is read holds a value that can be held.** -/
theorem storable_of_read {s : String} (h : read s = .ok t) : Tree.Storable maxDepth t := by
  rw [read] at h
  obtain ⟨⟨value, rest⟩, hvalue, h⟩ := bind_eq_ok_iff.1 h
  dsimp only at h
  split at h
  · cases h
    exact storable_of_readValue _ hvalue
  · cases h

end Json

end PromptRules.Data
