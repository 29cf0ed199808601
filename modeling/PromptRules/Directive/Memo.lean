import PromptRules.Data.Assoc
import PromptRules.Data.Tree
import PromptRules.Directive.Directives
import PromptRules.Log.Note
import PromptRules.Text.Checksum

/-!
# Memory of directives

Remembers what contents say, filed under their checksum, for a limited time and up to a
limited number. An entry keeps the content that it was read from, so two contents with one
checksum are never taken for each other. When a new checksum finds the memory full, the
oldest third of the entries goes.

Results:
* `Memo.keys_refresh`: a stored checksum becomes the newest one.
-/

namespace PromptRules.Directive

open Data Text

/-- How many contents are remembered, and for how many seconds. -/
structure Limits where
  room : Nat
  room_pos : 0 < room
  lifetime : Float

/-- Why two numbers are no limits. -/
inductive LimitError where
  | noRoom
  | noLifetime
deriving DecidableEq, Repr

/-- The wording of a limit error. -/
def LimitError.message : LimitError → String
  | .noRoom => "max_size must be at least 1"
  | .noLifetime => "ttl_seconds must be positive"

theorem Limits.toNat_pos {room : Int} (h : 0 < room) : 0 < room.toNat := Int.pos_iff_toNat_pos.1 h

/-- Limits from two numbers; the room is looked at first. -/
def Limits.ofNumbers (room : Int) (lifetime : Float) : Except LimitError Limits :=
  if h : 0 < room then
    if lifetime ≤ 0.0 then .error .noLifetime else .ok ⟨room.toNat, toNat_pos h, lifetime⟩
  else .error .noRoom

/-- Five hundred contents for five minutes. -/
def Limits.standard : Limits := ⟨500, by decide, 300.0⟩

/-- What is remembered of a content. -/
structure Memo.Entry where
  directives : Directives
  /-- The reading of the clock when the content was looked up. -/
  stored : Float
  content : String

/-- A memory of directives, with its entries from the oldest to the newest. -/
structure Memo where
  limits : Limits
  entries : List (UInt32 × Memo.Entry) := []
  hits : Nat := 0
  misses : Nat := 0
  evictions : Nat := 0
  /-- How often everything was forgotten. -/
  version : Nat := 0

namespace Memo

/-- Whether an entry answers for a content at a time. -/
def Entry.answers (e : Entry) (lifetime now : Float) (content : String) : Bool :=
  e.content == content && now - e.stored < lifetime

/-- The number of entries that go when a memory of this size is full. -/
def share (size : Nat) : Nat := max 1 (size / 3)

/-- The entries after storing one: a known checksum is moved to the end, a new one first
    makes room. -/
def stored (room : Nat) (entries : List (UInt32 × Entry)) (key : UInt32) (e : Entry) :
    List (UInt32 × Entry) :=
  if (Assoc.get? entries key).isSome then Assoc.erase entries key ++ [(key, e)]
  else if room ≤ entries.length then entries.drop (share entries.length) ++ [(key, e)]
  else entries ++ [(key, e)]

/-- The number of entries that storing drops to make room. -/
def dropped (room : Nat) (entries : List (UInt32 × Entry)) (key : UInt32) : Nat :=
  if (Assoc.get? entries key).isSome then 0
  else if room ≤ entries.length then share entries.length
  else 0

/-- What a lookup leads to. -/
structure Found (ε : Type) where
  directives : Directives
  memo : Memo
  /-- Why the content could not be read, if it was tried and failed. -/
  failure : Option ε := none
  /-- How many old entries had to go. -/
  evicted : Nat := 0

/-- Looks a content up: from the memory if an entry answers for it, else by reading it. A
    content that cannot be read says nothing and is not stored. -/
def get {ε : Type} (read : String → Except ε Directives) (now : Float) (content : String)
    (m : Memo) : Found ε :=
  if content = "" then { directives := .empty, memo := m }
  else
    let key := checksum content
    match (Assoc.get? m.entries key).filter (·.answers m.limits.lifetime now content) with
    | some e => { directives := e.directives, memo := { m with hits := m.hits + 1 } }
    | none =>
      match read content with
      | .error failure =>
        { directives := .empty, memo := { m with misses := m.misses + 1 }, failure := some failure }
      | .ok d =>
        let lost := dropped m.limits.room m.entries key
        { directives := d, evicted := lost
          memo :=
            { m with
              misses := m.misses + 1
              evictions := m.evictions + lost
              entries := stored m.limits.room m.entries key ⟨d, now, content⟩ } }

/-- The notes about a lookup of a content; `say` words a failure. -/
def Found.notes {ε : Type} (say : ε → String) (content : String) (f : Found ε) : List Note :=
  let failed := f.failure.map fun e =>
    let key := String.ofList (hexDigits 8 (checksum content).toNat)
    let why := say e
    { level := .warning, text := s!"Directive cache: failed to parse content (hash {key}): {why}" }
  let lost := f.evicted
  let evicted :=
    if lost = 0 then []
    else [{ level := .debug, text := s!"Directive cache: evicted {lost} oldest entries" }]
  failed.toList ++ evicted

/-- Forgets everything. -/
def clear (m : Memo) : Memo := { m with entries := [], version := m.version + 1 }

/-- The note about forgetting everything. -/
def cleared : Note := { level := .debug, text := "Directive cache cleared" }

/-- The checksums that are remembered, from the oldest to the newest. -/
def keys (m : Memo) : List UInt32 := Assoc.keys m.entries

/-- The counters of the memory. -/
def toRecord (m : Memo) : Record :=
  [("size", .int m.entries.length), ("max_size", .int m.limits.room), ("hits", .int m.hits),
   ("misses", .int m.misses), ("evictions", .int m.evictions), ("version", .int m.version)]

theorem keys_refresh {room : Nat} {entries : List (UInt32 × Entry)} {key : UInt32}
    (h : key ∈ Assoc.keys entries) (e : Entry) :
    Assoc.keys (stored room entries key e) = (Assoc.keys entries).filter (· ≠ key) ++ [key] := by
  simp only [stored, Assoc.mem_keys_iff.1 h, if_true]
  simp [Assoc.keys, Assoc.erase, List.filter_map, Function.comp_def]

end Memo

end PromptRules.Directive
