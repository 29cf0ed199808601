import PromptRules.Proofs.Json.Numbers
import PromptRules.Proofs.Json.Storable
import PromptRules.Proofs.Json.Texts

/-!
# Reading back what was written in JSON

Both writings, the one on a line and the one over several lines, put blanks only where the reader
drops them. So a value is read back from its text, whatever can follow it: scalars as such, and
containers part by part, with a comma and blanks between the parts. A value that no text can hold is
never read, and so not read back either.

Results:
* `reads_list`, `reads_map`: containers with blanks around their parts.
* `reads_page`, `reads_line`: values in either writing.
* `read_page_iff`, `read_line_iff`: exactly the values that a text can hold are read back.
-/

namespace PromptRules.Data

namespace Json

open Decimal Text

variable {room : Nat} {t : Tree} {cs rest sep pad : List Char}

/-! ## Blanks -/

/-- Nothing but blanks. -/
def Blank (cs : List Char) : Prop := ∀ c ∈ cs, isJsonBlank c = true

/-- The text starts with a character that starts a value or an entry, and no blank. -/
def Starts (cs : List Char) : Prop := ∃ c cs', cs = c :: cs' ∧ isJsonBlank c = false ∧ c ≠ ']'

theorem blank_space : Blank [' '] := List.forall_mem_singleton.2 rfl

theorem skipBlanks_append (h : Blank pad) (cs : List Char) :
    skipBlanks (pad ++ cs) = skipBlanks cs := by
  rw [skipBlanks, List.dropWhile_append_of_pos h, skipBlanks]

theorem Starts.skipBlanks (h : Starts cs) : skipBlanks cs = cs := by
  obtain ⟨c, cs, rfl, hc, -⟩ := h
  exact skipBlanks_of_other cs hc

theorem Starts.append (h : Starts cs) (rest : List Char) : Starts (cs ++ rest) := by
  obtain ⟨c, cs, rfl, hc⟩ := h
  exact ⟨c, cs ++ rest, rfl, hc⟩

theorem ends_cons {c : Char} (h : isJsonBlank c = true ∨ c = ',' ∨ c = ']' ∨ c = '\x7d') :
    Ends (c :: rest) := by
  rintro _ ⟨⟩
  exact h

theorem Ends.blank (h : Blank pad) (hr : Ends rest) : Ends (pad ++ rest) := by
  cases pad with
  | nil => exact hr
  | cons c pad => exact ends_cons (.inl (h c List.mem_cons_self))

/-! ## Values -/

/-- The text is read as the value, whatever follows it that can follow a value, if there are three
    units of fuel for each of its characters. -/
structure Reads (room : Nat) (t : Tree) (cs : List Char) : Prop where
  starts : Starts cs
  read : ∀ fuel rest, 3 * cs.length ≤ fuel → Ends rest →
    readValue fuel room (cs ++ rest) = .ok (t, rest)

theorem not_start_of_isDigit {c : Char} (h : c.isDigit = true) :
    isJsonBlank c = false ∧ c ≠ ']' ∧ c ≠ '"' ∧ c ≠ '[' ∧ c ≠ '\x7b' := by
  refine ⟨?_, ?_, ?_, ?_, ?_⟩
  · simp only [isJsonBlank, Bool.or_eq_false_iff, beq_eq_false_iff_ne]
    refine ⟨⟨⟨?_, ?_⟩, ?_⟩, ?_⟩ <;> (rintro rfl; cases h)
  all_goals
    rintro rfl
    cases h

/-- A scalar starts like no text and no container. -/
theorem readScalar_start {p : Tree × List Char} (h : readScalar cs = .ok p) :
    ∃ c cs', cs = c :: cs' ∧ isJsonBlank c = false ∧ c ≠ ']' ∧ c ≠ '"' ∧ c ≠ '[' ∧ c ≠ '\x7b' := by
  unfold readScalar at h
  split at h
  case h_6 =>
    split at h
    · rename_i hafter
      cases cs with
      | nil => cases hafter
      | cons c cs =>
        obtain rfl : 'I' = c := by
          by_contra hne
          have hnone : after? "Infinity".toList (c :: cs) = none := if_neg hne
          rw [hnone] at hafter
          cases hafter
        exact ⟨_, _, rfl, by decide⟩
    · obtain ⟨c, cs', rfl, hc⟩ := readNumber_head h
      exact ⟨c, cs', rfl, not_start_of_isDigit hc⟩
  all_goals exact ⟨_, _, rfl, by decide⟩

theorem readValue_scalar {fuel : Nat} {c : Char} (h : c ≠ '"' ∧ c ≠ '[' ∧ c ≠ '\x7b') :
    readValue (fuel + 1) room (c :: cs) = readScalar (c :: cs) := by
  rw [readValue]
  · exact fun _ hc => h.1 (List.cons.inj hc).1
  · exact fun _ hc => h.2.1 (List.cons.inj hc).1
  · exact fun _ hc => h.2.2 (List.cons.inj hc).1

/-- A scalar is read as such. -/
theorem reads_of_readScalar (h : ∀ rest, Ends rest → readScalar (cs ++ rest) = .ok (t, rest)) :
    Reads room t cs := by
  have hnil := h [] (by rintro _ ⟨⟩)
  rw [List.append_nil] at hnil
  obtain ⟨c, cs, rfl, hblank, hbracket, hvalue⟩ := readScalar_start hnil
  refine ⟨⟨c, cs, rfl, hblank, hbracket⟩, fun fuel rest hf hr => ?_⟩
  obtain ⟨fuel, rfl⟩ : ∃ f, fuel = f + 1 := ⟨fuel - 1, by rw [List.length_cons] at hf; omega⟩
  exact (readValue_scalar hvalue).trans (h rest hr)

theorem reads_text (ascii : Bool) (s : String) :
    Reads room (.text s) (writeText ascii s).toList := by
  have htext : (writeText ascii s).toList = '"' :: (s.toList.flatMap (escape ascii) ++ ['"']) := by
    rw [writeText, String.toList_ofList]
    rfl
  rw [htext]
  refine ⟨⟨_, _, rfl, by decide⟩, fun fuel rest hf _ => ?_⟩
  obtain ⟨fuel, rfl⟩ : ∃ f, fuel = f + 1 := ⟨fuel - 1, by rw [List.length_cons] at hf; omega⟩
  have hread := readText_writeText ascii [] s.toList rest
  rw [List.cons_append, List.append_assoc, readValue]
  simp only [List.singleton_append, hread]
  rw [List.reverse_nil, List.nil_append, String.ofList_toList]

/-! ## Containers -/

theorem exists_intercalate (sep part : List Char) (parts : List (List Char)) :
    ∃ more, sep.intercalate (part :: parts) = part ++ more := by
  cases parts with
  | nil => exact ⟨[], by rw [List.intercalate_singleton, List.append_nil]⟩
  | cons part' parts => exact ⟨_, by rw [List.intercalate_cons_cons, List.append_assoc]⟩

theorem starts_intercalate {part : List Char} (h : Starts part) (sep : List Char)
    (parts : List (List Char)) : Starts (sep.intercalate (part :: parts)) := by
  obtain ⟨more, hmore⟩ := exists_intercalate sep part parts
  exact hmore ▸ h.append more

/-- The items of a list are read back, with blanks after each comma and before the bracket. -/
theorem readItems_intercalate (hsep : Blank sep) (hpad : Blank pad) {items : List Tree}
    {parts : List (List Char)} (h : List.Forall₂ (Reads room) items parts) (hne : items ≠ [])
    (rest : List Char) {fuel : Nat} (hf : 3 * ((',' :: sep).intercalate parts).length + 1 ≤ fuel) :
    readItems fuel room ((',' :: sep).intercalate parts ++ (pad ++ ']' :: rest))
      = .ok (items, rest) := by
  induction h generalizing fuel with
  | nil => exact absurd rfl hne
  | @cons t part items parts ht hrest ih =>
    obtain ⟨fuel, rfl⟩ : ∃ f, fuel = f + 1 := ⟨fuel - 1, by omega⟩
    cases hrest with
    | nil =>
      rw [List.intercalate_singleton] at hf ⊢
      rw [readItems, ht.read fuel _ (by omega) (.blank hpad (ends_cons (.inr (.inr (.inl rfl)))))]
      simp only [bind, Except.bind, skipBlanks_append hpad]
      rfl
    | @cons u part' items parts hu hrest =>
      -- of the other items only matters that they start without a blank
      have hmore := starts_intercalate hu.starts (',' :: sep) parts
      rw [List.intercalate_cons_cons] at hf ⊢
      generalize (',' :: sep).intercalate (part' :: parts) = more at ih hf hmore ⊢
      simp only [List.length_append, List.length_cons] at hf
      simp only [List.append_assoc, List.cons_append]
      rw [readItems, ht.read fuel _ (by omega) (ends_cons (.inr (.inl rfl)))]
      have hskip : skipBlanks (',' :: (sep ++ (more ++ (pad ++ ']' :: rest))))
          = ',' :: (sep ++ (more ++ (pad ++ ']' :: rest))) := skipBlanks_of_other _ rfl
      simp only [bind, Except.bind, hskip, skipBlanks_append hsep, (hmore.append _).skipBlanks,
        ih (List.cons_ne_nil u items) (show 3 * more.length + 1 ≤ fuel by omega)]
      rfl

theorem reads_nil : Reads (room + 1) (.list []) ['[', ']'] := by
  refine ⟨⟨_, _, rfl, by decide⟩, fun fuel rest hf _ => ?_⟩
  obtain ⟨fuel, rfl⟩ : ∃ f, fuel = f + 2 := ⟨fuel - 2, by simp only [List.length] at hf; omega⟩
  show readValue (fuel + 2) (room + 1) ('[' :: ']' :: rest) = _
  rw [readValue, skipBlanks_of_other rest rfl, readList]

/-- A list between its brackets, with blanks around its items. -/
theorem reads_list {lead : List Char} (hlead : Blank lead) (hsep : Blank sep) (hpad : Blank pad)
    {items : List Tree} {parts : List (List Char)} (h : List.Forall₂ (Reads room) items parts)
    (hne : items ≠ []) :
    Reads (room + 1) (.list items)
      ('[' :: (lead ++ ((',' :: sep).intercalate parts ++ (pad ++ [']'])))) := by
  refine ⟨⟨_, _, rfl, by decide⟩, fun fuel rest hf _ => ?_⟩
  simp only [List.length_cons, List.length_append] at hf
  obtain ⟨fuel, rfl⟩ : ∃ f, fuel = f + 2 := ⟨fuel - 2, by omega⟩
  obtain ⟨item, part, items, parts, hpart, -, rfl, rfl⟩ :
      ∃ item part items' parts', Reads room item part ∧ List.Forall₂ (Reads room) items' parts' ∧
        items = item :: items' ∧ parts = part :: parts' := by
    cases h with
    | nil => exact absurd rfl hne
    | cons h1 h2 => exact ⟨_, _, _, _, h1, h2, rfl, rfl⟩
  have hitems := readItems_intercalate hsep hpad h hne rest (show _ ≤ fuel by omega)
  have hstarts := (starts_intercalate hpart.starts (',' :: sep) parts).append
    (pad ++ ']' :: rest)
  simp only [List.cons_append, List.append_assoc, List.nil_append]
  rw [readValue]
  rw [skipBlanks_append hlead, hstarts.skipBlanks, readList]
  · rw [hitems]
    rfl
  · intro rest' heq
    obtain ⟨c, cs, hcs, -, hbracket⟩ := hstarts
    exact hbracket (List.cons.inj (hcs.symm.trans heq)).1

/-- The text is read as the key and the value of an entry. -/
def ReadsEntry (room : Nat) (e : String × Tree) (cs : List Char) : Prop :=
  ∃ ascii value, cs = (writeText ascii e.1).toList ++ (':' :: ' ' :: value) ∧ Reads room e.2 value

theorem ReadsEntry.starts {e : String × Tree} (h : ReadsEntry room e cs) :
    ∃ cs', cs = '"' :: cs' := by
  obtain ⟨ascii, value, rfl, -⟩ := h
  rw [writeText, String.toList_ofList]
  exact ⟨_, rfl⟩

/-- What the reader of entries does with an entry. -/
theorem readEntries_entry {e : String × Tree} {part cs : List Char} (h : ReadsEntry room e part)
    {fuel : Nat} (hf : 3 * part.length ≤ fuel) (hr : Ends cs) (read : Record) :
    readEntries (fuel + 1) room read (part ++ cs) =
      match skipBlanks cs with
      | ',' :: rest => readEntries fuel room (Assoc.put read e.1 e.2) (skipBlanks rest)
      | '\x7d' :: rest => .ok (Assoc.put read e.1 e.2, rest)
      | _ => .error .malformed := by
  obtain ⟨ascii, value, rfl, hvalue⟩ := h
  have htext : (writeText ascii e.1).toList ++ (':' :: ' ' :: value) ++ cs =
      '"' :: (e.1.toList.flatMap (escape ascii) ++ '"' :: ':' :: ' ' :: (value ++ cs)) := by
    rw [writeText, String.toList_ofList]
    simp
  have hkey := readText_writeText ascii [] e.1.toList (':' :: ' ' :: (value ++ cs))
  have hcolon : skipBlanks (':' :: ' ' :: (value ++ cs)) = ':' :: ' ' :: (value ++ cs) :=
    skipBlanks_of_other _ rfl
  have hspace : skipBlanks (' ' :: (value ++ cs)) = value ++ cs :=
    (skipBlanks_append blank_space _).trans (hvalue.starts.append cs).skipBlanks
  simp only [List.length_append, List.length_cons] at hf
  have hread := hvalue.read fuel cs (by omega) hr
  rw [htext, readEntries, hkey]
  simp only [hcolon, hspace, hread, bind, Except.bind, List.reverse_nil, List.nil_append,
    String.ofList_toList]
  rfl

theorem put_of_nodup {read entries : Record} {e : String × Tree}
    (h : (Assoc.keys (read ++ e :: entries)).Nodup) : Assoc.put read e.1 e.2 = read ++ [e] := by
  refine Assoc.put_eq_append (Option.not_isSome_iff_eq_none.1 fun hsome => ?_) e.2
  rw [Assoc.keys, List.map_append, List.nodup_append] at h
  exact h.2.2 _ (Assoc.mem_keys_iff.2 hsome) _ List.mem_cons_self rfl

/-- The entries of a map are read back and added to those before them. -/
theorem readEntries_intercalate (hsep : Blank sep) (hpad : Blank pad) {entries : Record}
    {parts : List (List Char)} (h : List.Forall₂ (ReadsEntry room) entries parts)
    (hne : entries ≠ []) (rest : List Char) {read : Record}
    (hkeys : (Assoc.keys (read ++ entries)).Nodup) {fuel : Nat}
    (hf : 3 * ((',' :: sep).intercalate parts).length + 1 ≤ fuel) :
    readEntries fuel room read ((',' :: sep).intercalate parts ++ (pad ++ '\x7d' :: rest))
      = .ok (read ++ entries, rest) := by
  induction h generalizing fuel read with
  | nil => exact absurd rfl hne
  | @cons e part entries parts he hrest ih =>
    obtain ⟨fuel, rfl⟩ : ∃ f, fuel = f + 1 := ⟨fuel - 1, by omega⟩
    have hput : Assoc.put read e.1 e.2 = read ++ [e] := put_of_nodup hkeys
    cases hrest with
    | nil =>
      rw [List.intercalate_singleton] at hf ⊢
      rw [readEntries_entry he (by omega) (.blank hpad (ends_cons (.inr (.inr (.inr rfl))))),
        skipBlanks_append hpad, skipBlanks_of_other rest rfl, hput]
      rfl
    | @cons e' part' entries parts he' hrest =>
      obtain ⟨cs', hcs'⟩ := he'.starts
      have hmore := starts_intercalate ⟨_, _, hcs', by decide⟩ (',' :: sep) parts
      rw [List.intercalate_cons_cons] at hf ⊢
      generalize (',' :: sep).intercalate (part' :: parts) = more at ih hf hmore ⊢
      simp only [List.length_append, List.length_cons] at hf
      simp only [List.append_assoc, List.cons_append]
      rw [readEntries_entry he (by omega) (ends_cons (.inr (.inl rfl))), skipBlanks_of_other _ rfl]
      simp only [skipBlanks_append hsep, (hmore.append _).skipBlanks, hput]
      rw [ih (List.cons_ne_nil _ _) (by simpa using hkeys) (by omega), List.append_assoc]
      rfl

theorem reads_empty : Reads (room + 1) (.map []) ['\x7b', '\x7d'] := by
  refine ⟨⟨_, _, rfl, by decide⟩, fun fuel rest hf _ => ?_⟩
  obtain ⟨fuel, rfl⟩ : ∃ f, fuel = f + 2 := ⟨fuel - 2, by simp only [List.length] at hf; omega⟩
  show readValue (fuel + 2) (room + 1) ('\x7b' :: '\x7d' :: rest) = _
  rw [readValue, skipBlanks_of_other rest rfl, readMap]

/-- A map between its braces, with blanks around its entries. -/
theorem reads_map {lead : List Char} (hlead : Blank lead) (hsep : Blank sep) (hpad : Blank pad)
    {entries : Record} {parts : List (List Char)}
    (h : List.Forall₂ (ReadsEntry room) entries parts) (hne : entries ≠ [])
    (hkeys : (Assoc.keys entries).Nodup) :
    Reads (room + 1) (.map entries)
      ('\x7b' :: (lead ++ ((',' :: sep).intercalate parts ++ (pad ++ ['\x7d'])))) := by
  refine ⟨⟨_, _, rfl, by decide⟩, fun fuel rest hf _ => ?_⟩
  simp only [List.length_cons, List.length_append] at hf
  obtain ⟨fuel, rfl⟩ : ∃ f, fuel = f + 2 := ⟨fuel - 2, by omega⟩
  have hentries : readEntries fuel room [] _ = .ok (entries, rest) :=
    readEntries_intercalate hsep hpad h hne rest (List.nil_append entries ▸ hkeys) (by omega)
  obtain ⟨cs', hcs'⟩ : ∃ cs', (',' :: sep).intercalate parts = '"' :: cs' := by
    cases h with
    | nil => exact absurd rfl hne
    | @cons _ part _ parts he _ =>
      obtain ⟨cs', rfl⟩ := he.starts
      obtain ⟨more, hmore⟩ := exists_intercalate (',' :: sep) ('"' :: cs') parts
      exact ⟨_, hmore⟩
  simp only [List.cons_append, List.append_assoc, List.nil_append] at hentries ⊢
  rw [readValue, skipBlanks_append hlead]
  rw [hcs', List.cons_append, skipBlanks_of_other _ rfl, readMap, ← List.cons_append, ← hcs',
    hentries]
  · rfl
  · exact fun _ heq => absurd (List.cons.inj heq).1 (by decide)

/-! ## Both writings -/

theorem pageItems_eq_map (depth : Nat) (items : List Tree) :
    pageItems depth items = items.map (page depth) := by
  induction items with
  | nil => rfl
  | cons t items ih => rw [pageItems, ih, List.map_cons]

theorem pageEntries_eq_map (depth : Nat) (entries : Record) :
    pageEntries depth entries
      = entries.map fun e => writeText false e.1 ++ ": " ++ page depth e.2 := by
  induction entries with
  | nil => rfl
  | cons e entries ih => rw [pageEntries, ih, List.map_cons]

theorem lineItems_eq_map (items : List Tree) : lineItems items = items.map line := by
  induction items with
  | nil => rfl
  | cons t items ih => rw [lineItems, ih, List.map_cons]

theorem lineEntries_eq_map (entries : Record) :
    lineEntries entries = entries.map fun e => writeText true e.1 ++ ": " ++ line e.2 := by
  induction entries with
  | nil => rfl
  | cons e entries ih => rw [lineEntries, ih, List.map_cons]

theorem readsEntry_written (ascii : Bool) {e : String × Tree} {value : String}
    (h : Reads room e.2 value.toList) :
    ReadsEntry room e (writeText ascii e.1 ++ ": " ++ value).toList := by
  refine ⟨ascii, value.toList, ?_, h⟩
  rw [String.toList_append, String.toList_append, List.append_assoc]
  rfl

/-- The parts of a container, read one by one. -/
theorem forall₂_toList_map {α : Type} {R : α → List Char → Prop} {xs : List α} {f : α → String}
    (h : ∀ x ∈ xs, R x (f x).toList) : List.Forall₂ R xs ((xs.map f).map String.toList) := by
  rw [List.map_map, List.forall₂_map_right_iff]
  exact List.forall₂_same.2 h

theorem blank_newLine (depth : Nat) : Blank (newLine depth).toList := by
  rw [newLine, String.toList_ofList]
  refine List.forall_mem_cons.2 ⟨rfl, fun c hc => ?_⟩
  obtain rfl := List.eq_of_mem_replicate hc
  rfl

theorem toList_block_nil (depth : Nat) (opening closing : String) :
    (block depth opening closing []).toList = opening.toList ++ closing.toList := by
  rw [block, String.toList_append]

theorem toList_block (depth : Nat) (opening closing : String) {parts : List String}
    (h : parts ≠ []) :
    (block depth opening closing parts).toList =
      opening.toList ++ ((newLine (depth + 1)).toList ++
        ((',' :: (newLine (depth + 1)).toList).intercalate (parts.map String.toList) ++
          ((newLine depth).toList ++ closing.toList))) := by
  cases parts with
  | nil => exact absurd rfl h
  | cons part parts =>
    simp only [block, String.toList_append, String.toList_intercalate, List.append_assoc]
    rfl

theorem toList_enclosed (opening closing : String) (parts : List String) :
    (opening ++ ", ".intercalate parts ++ closing).toList =
      opening.toList ++ ([] ++ ([',', ' '].intercalate (parts.map String.toList) ++
        ([] ++ closing.toList))) := by
  simp only [String.toList_append, String.toList_intercalate, List.append_assoc, List.nil_append]
  rfl

theorem reads_null : Reads room .null "null".toList := reads_of_readScalar fun _ _ => rfl

theorem reads_bool (b : Bool) : Reads room (.bool b) (if b then "true" else "false").toList := by
  cases b <;> exact reads_of_readScalar fun _ _ => rfl

theorem reads_int {n : Int} (h : n.natAbs < 10 ^ maxDigits) :
    Reads room (.int n) (toString n).toList :=
  reads_of_readScalar fun _ hr => readScalar_int h hr

theorem reads_float (x : Float) : Reads room (.float x) (numbers.write x).toList :=
  reads_of_readScalar fun _ hr => readScalar_float x hr

/-- A value over several lines is read back. -/
theorem reads_page (h : Tree.Storable room t) (depth : Nat) :
    Reads room t (page depth t).toList := by
  -- by induction on what makes the value storable; the parts of a container are indented deeper
  induction h generalizing depth with
  | null => exact reads_null
  | bool b => exact reads_bool b
  | int hn => exact reads_int hn
  | float x => exact reads_float x
  | text s => exact reads_text false s
  | @list room items _ ih =>
    rw [page, pageItems_eq_map]
    cases items with
    | nil =>
      rw [List.map_nil, toList_block_nil]
      exact reads_nil
    | cons item items =>
      rw [toList_block _ _ _ (mt List.map_eq_nil_iff.1 (List.cons_ne_nil _ _))]
      exact reads_list (blank_newLine _) (blank_newLine _) (blank_newLine _)
        (forall₂_toList_map fun t ht => ih t ht (depth + 1)) (List.cons_ne_nil _ _)
  | @map room entries hkeys _ ih =>
    rw [page, pageEntries_eq_map]
    cases entries with
    | nil =>
      rw [List.map_nil, toList_block_nil]
      exact reads_empty
    | cons e entries =>
      rw [toList_block _ _ _ (mt List.map_eq_nil_iff.1 (List.cons_ne_nil _ _))]
      exact reads_map (blank_newLine _) (blank_newLine _) (blank_newLine _)
        (forall₂_toList_map fun e he => readsEntry_written false (ih e he (depth + 1)))
        (List.cons_ne_nil _ _) hkeys

/-- A value on one line is read back. -/
theorem reads_line (h : Tree.Storable room t) : Reads room t (line t).toList := by
  have hnone : Blank [] := List.forall_mem_nil _
  induction h with
  | null => exact reads_null
  | bool b => exact reads_bool b
  | int hn => exact reads_int hn
  | float x => exact reads_float x
  | text s => exact reads_text true s
  | @list room items _ ih =>
    rw [line, lineItems_eq_map, toList_enclosed]
    cases items with
    | nil => exact reads_nil
    | cons item items =>
      exact reads_list hnone blank_space hnone (forall₂_toList_map ih) (List.cons_ne_nil _ _)
  | @map room entries hkeys _ ih =>
    rw [line, lineEntries_eq_map, toList_enclosed]
    cases entries with
    | nil => exact reads_empty
    | cons e entries =>
      exact reads_map hnone blank_space hnone
        (forall₂_toList_map fun e he => readsEntry_written true (ih e he)) (List.cons_ne_nil _ _)
        hkeys

theorem read_of_reads {s : String} (h : Reads maxDepth t s.toList) : read s = .ok t := by
  have hread := h.read (3 * s.toList.length + 3) [] (by omega) (by rintro _ ⟨⟩)
  rw [List.append_nil] at hread
  rw [read, h.starts.skipBlanks, hread]
  rfl

/-- **Values are read back from their page** exactly if a text can hold them. -/
theorem read_page_iff : read (page 0 t) = .ok t ↔ Tree.Storable maxDepth t :=
  ⟨storable_of_read, fun h => read_of_reads (reads_page h 0)⟩

/-- **Values are read back from their line** exactly if a text can hold them. -/
theorem read_line_iff : read (line t) = .ok t ↔ Tree.Storable maxDepth t :=
  ⟨storable_of_read, fun h => read_of_reads (reads_line h)⟩

end Json

end PromptRules.Data
