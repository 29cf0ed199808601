import PromptRules.Data.Json.Reader
import PromptRules.Data.Json.Writer
import PromptRules.Proofs.Decimal.Shortest
import PromptRules.Proofs.Decimal.Written

/-!
# Numbers in JSON

A number is written so that the reader finds its end: nothing that goes on a number can follow a
value. Integers are read back if they have not too many digits. A double is written in positional
notation or with an exponent; wherever the point is, its digits have the same value, so they are
read as the double that this value rounds to.

Results:
* `readsAs_writeScaled`: digits in either notation have the value that was laid out.
* `readScalar_int`, `readScalar_float`: integers and doubles are read back.
-/

namespace PromptRules.Data.Json

open Decimal

/-- Nothing follows, or something that can stand behind a value. -/
def Ends (rest : List Char) : Prop :=
  ∀ c ∈ rest.head?, isJsonBlank c = true ∨ c = ',' ∨ c = ']' ∨ c = '\x7d'

/-- No digit follows. -/
def NoDigit (rest : List Char) : Prop := ∀ c ∈ rest.head?, c.isDigit = false

variable {ds rest : List Char} {n : Nat}

theorem Ends.cases {c : Char} (h : Ends (c :: rest)) :
    c = ' ' ∨ c = '\t' ∨ c = '\n' ∨ c = '\r' ∨ c = ',' ∨ c = ']' ∨ c = '\x7d' := by
  have h := h c rfl
  simp only [isJsonBlank, Bool.or_eq_true, beq_iff_eq] at h
  tauto

theorem Ends.noDigit (h : Ends rest) : NoDigit rest := by
  rintro c hc
  cases rest with
  | nil => cases hc
  | cons d rest =>
    obtain rfl := Option.some.inj hc
    obtain rfl | rfl | rfl | rfl | rfl | rfl | rfl := h.cases <;> rfl

theorem Ends.head_ne (h : Ends rest) {c : Char} (hc : c ∈ rest.head?) :
    c ≠ '.' ∧ c ≠ 'e' ∧ c ≠ 'E' := by
  cases rest with
  | nil => cases hc
  | cons d rest =>
    obtain rfl := Option.some.inj hc
    obtain rfl | rfl | rfl | rfl | rfl | rfl | rfl := h.cases <;> decide

/-! ## The parts of a number -/

/-- The number that digits write. -/
def number (ds : List Char) : Nat := ofDigits (ds.map fun c => c.toNat - 0x30)

theorem asciiDigits_append (hd : ∀ c ∈ ds, c.isDigit = true) (hr : NoDigit rest) :
    asciiDigits (ds ++ rest) = (ds, rest) := by
  have htake : rest.takeWhile Char.isDigit = [] := by
    cases rest with
    | nil => rfl
    | cons c rest => exact List.takeWhile_cons_of_neg (by simp [hr c rfl])
  have hdrop : rest.dropWhile Char.isDigit = rest := by
    cases rest with
    | nil => rfl
    | cons c rest => exact List.dropWhile_cons_of_neg (by simp [hr c rfl])
  rw [asciiDigits, List.takeWhile_append_of_pos hd, List.dropWhile_append_of_pos hd, htake, hdrop,
    List.append_nil]

/-- The whole part of a number: a zero, or digits of which the first is none. -/
theorem wholePart_append (hd : ∀ c ∈ ds, c.isDigit = true) (hr : NoDigit rest)
    (h0 : ds = ['0'] ∨ ∃ d, ds.head? = some d ∧ d ≠ '0') :
    wholePart (ds ++ rest) = some (ds, rest) := by
  obtain rfl | ⟨d, hhead, hd0⟩ := h0
  · rfl
  · cases ds with
    | nil => cases hhead
    | cons c ds =>
      obtain rfl := Option.some.inj hhead
      have hdigit := hd c List.mem_cons_self
      have happend := asciiDigits_append hd hr
      rw [List.cons_append] at happend ⊢
      rw [wholePart, if_pos hdigit, happend]
      exact fun h => hd0 h

theorem fractionPart_append (hne : ds ≠ []) (hd : ∀ c ∈ ds, c.isDigit = true) (hr : NoDigit rest) :
    fractionPart ('.' :: (ds ++ rest)) = (ds, rest) := by
  rw [fractionPart, asciiDigits_append hd hr]
  cases ds with
  | nil => exact absurd rfl hne
  | cons d ds => rfl

theorem fractionPart_of_head (h : '.' ∉ rest.head?) : fractionPart rest = ([], rest) := by
  cases rest with
  | nil => rfl
  | cons c rest =>
    have : c ≠ '.' := fun hc => h (hc ▸ rfl)
    simp [fractionPart, this]

theorem exponentPart_of_head (h : ∀ c ∈ rest.head?, c ≠ 'e' ∧ c ≠ 'E') :
    exponentPart rest = (none, rest) := by
  cases rest with
  | nil => rfl
  | cons c rest => simp [exponentPart, h c rfl]

/-! ## Digits and their numbers -/

theorem number_written (n : Nat) : number (written n) = n := by
  rw [number, ofDigits, List.foldl_map]
  exact (Nat.ofDigitChars_eq_foldl ..).symm.trans Nat.ofDigitChars_ten_toDigits

theorem number_append_zeros (ds : List Char) (k : Nat) :
    number (ds ++ List.replicate k '0') = number ds * 10 ^ k := by
  induction k with
  | zero => simp
  | succ k ih =>
    rw [List.replicate_succ', ← List.append_assoc, number, List.map_append, List.map_singleton,
      ofDigits_concat, ← number, ih, pow_succ]
    change 10 * _ + 0 = _
    ring

theorem number_zeros_append (k : Nat) (ds : List Char) :
    number (List.replicate k '0' ++ ds) = number ds := by
  induction k with
  | zero => rfl
  | succ k ih => exact ih

/-- The digits of a number above zero do not start with a zero. -/
theorem head_written (h : 0 < n) : ∃ d, (written n).head? = some d ∧ d ≠ '0' := by
  induction n using Nat.strongRecOn with
  | ind n ih =>
    rw [written]
    obtain hlt | hle := Nat.lt_or_ge n 10
    · rw [Nat.toDigits_of_lt_base hlt]
      have hdigit : ∀ n < 10, 0 < n → Nat.digitChar n ≠ '0' := by decide
      exact ⟨_, rfl, hdigit n hlt h⟩
    · obtain ⟨d, hd, hne⟩ := ih (n / 10) (by omega) (by omega)
      rw [Nat.toDigits_of_base_le (by decide) hle]
      exact ⟨d, by rw [List.head?_append, ← written, hd]; rfl, hne⟩

theorem exponentPart_minus (hne : ds ≠ []) (hd : ∀ c ∈ ds, c.isDigit = true) (hr : NoDigit rest) :
    exponentPart ('e' :: '-' :: (ds ++ rest)) = (some (-(number ds : Int)), rest) := by
  rw [exponentPart, if_pos (.inl rfl)]
  simp only [asciiDigits_append hd hr]
  cases ds with
  | nil => exact absurd rfl hne
  | cons d ds => rfl

theorem exponentPart_plus (hne : ds ≠ []) (hd : ∀ c ∈ ds, c.isDigit = true) (hr : NoDigit rest) :
    exponentPart ('e' :: '+' :: (ds ++ rest)) = (some (number ds : Int), rest) := by
  rw [exponentPart, if_pos (.inl rfl)]
  simp only [asciiDigits_append hd hr]
  cases ds with
  | nil => exact absurd rfl hne
  | cons d ds => rfl

/-- An exponent is written as its sign and digits of its value. -/
theorem exists_exponentText (e : Int) :
    ∃ ds, ds ≠ [] ∧ (∀ c ∈ ds, c.isDigit = true) ∧ number ds = e.natAbs ∧
      exponentText e = 'e' :: (if e < 0 then '-' else '+') :: ds := by
  have hwritten : ∀ c ∈ written e.natAbs, c.isDigit = true := fun _ => isDigit_of_mem_written
  by_cases hlen : (written e.natAbs).length < 2
  · refine ⟨'0' :: written e.natAbs, List.cons_ne_nil _ _, ?_, ?_, ?_⟩
    · exact List.forall_mem_cons.2 ⟨rfl, hwritten⟩
    · exact (number_zeros_append 1 _).trans (number_written _)
    · exact congrArg (fun ds => 'e' :: _ :: ds) (if_pos hlen)
  · refine ⟨written e.natAbs, written_ne_nil _, hwritten, number_written _, ?_⟩
    exact congrArg (fun ds => 'e' :: _ :: ds) (if_neg hlen)

/-- An exponent is read back. -/
theorem exponentPart_exponentText (e : Int) (hr : NoDigit rest) :
    exponentPart (exponentText e ++ rest) = (some e, rest) := by
  obtain ⟨ds, hne, hd, hnumber, htext⟩ := exists_exponentText e
  rw [htext]
  split
  · exact (exponentPart_minus hne hd hr).trans (by rw [hnumber]; congr 2; omega)
  · exact (exponentPart_plus hne hd hr).trans (by rw [hnumber]; congr 2; omega)

/-! ## Doubles -/

/-- The text starts with digits of the value `x`, which are read as a double, and goes on with
    `rest`. -/
def ReadsAs (negative : Bool) (cs rest : List Char) (x : ℚ) : Prop :=
  ∃ (digits : Nat) (exponent : Int), (digits * 10 ^ exponent : ℚ) = x ∧
    readNumber negative cs = .ok (.float (readScaled negative digits exponent), rest)

variable {negative : Bool} {e : Int}

/-- A number with a fraction or an exponent is read from its parts. -/
theorem readsAs_of_parts {cs fraction r1 r2 : List Char} {exponent : Option Int} {x : ℚ}
    (hwhole : wholePart cs = some (ds, r1)) (hfraction : fractionPart r1 = (fraction, r2))
    (hexponent : exponentPart r2 = (exponent, rest))
    (hpart : fraction ≠ [] ∨ exponent.isSome = true)
    (hvalue : (number (ds ++ fraction) * 10 ^ (exponent.getD 0 - fraction.length) : ℚ) = x) :
    ReadsAs negative cs rest x := by
  refine ⟨_, _, hvalue, ?_⟩
  rw [readNumber, hwhole]
  simp only [hfraction, hexponent]
  rw [if_neg]
  · rfl
  · cases fraction <;> cases exponent <;> simp_all

theorem isDigit_of_mem_zeros (k : Nat) : ∀ c ∈ List.replicate k '0', c.isDigit = true := by
  intro c hc
  obtain rfl := List.eq_of_mem_replicate hc
  rfl

theorem isDigit_append {es : List Char} (hd : ∀ c ∈ ds, c.isDigit = true)
    (he : ∀ c ∈ es, c.isDigit = true) : ∀ c ∈ ds ++ es, c.isDigit = true := fun c hc =>
  (List.mem_append.1 hc).elim (hd c) (he c)

theorem noDigit_point (cs : List Char) : NoDigit ('.' :: cs) := by
  rintro _ ⟨⟩
  rfl

theorem Ends.exponentPart (hr : Ends rest) : exponentPart rest = (none, rest) :=
  exponentPart_of_head fun _ hc => (hr.head_ne hc).2

/-- All digits stand behind the point, after zeros. -/
theorem readsAs_small (hr : Ends rest) (k : Nat) (he : e = -(k + (written n).length : Nat)) :
    ReadsAs negative ('0' :: '.' :: (List.replicate k '0' ++ written n ++ rest)) rest
      (n * 10 ^ e) := by
  have hd := isDigit_append (isDigit_of_mem_zeros k) fun c (hc : c ∈ written n) =>
    isDigit_of_mem_written hc
  have hne : List.replicate k '0' ++ written n ≠ [] := by simp [written_ne_nil]
  have hwhole : wholePart (['0'] ++ '.' :: (List.replicate k '0' ++ written n ++ rest))
      = some (['0'], _) := wholePart_append (by simp) (noDigit_point _) (.inl rfl)
  refine readsAs_of_parts hwhole (fractionPart_append hne hd hr.noDigit) hr.exponentPart
    (.inl hne) ?_
  have hnumber : number (['0'] ++ (List.replicate k '0' ++ written n)) = n :=
    (number_zeros_append 1 _).trans ((number_zeros_append _ _).trans (number_written n))
  rw [hnumber, he, List.length_append, List.length_replicate, Option.getD_none, zero_sub]

/-- All digits stand before the point, with zeros after them. -/
theorem readsAs_whole (hn : 0 < n) (hr : Ends rest) (k : Nat) :
    ReadsAs negative (written n ++ List.replicate k '0' ++ ('.' :: (['0'] ++ rest))) rest
      (n * 10 ^ (k : Int)) := by
  obtain ⟨d, hhead, hd0⟩ := head_written hn
  have hd := isDigit_append (fun c (hc : c ∈ written n) => isDigit_of_mem_written hc)
    (isDigit_of_mem_zeros k)
  refine readsAs_of_parts
    (wholePart_append hd (noDigit_point _) (.inr ⟨d, by rw [List.head?_append, hhead]; rfl, hd0⟩))
    (fractionPart_append (List.cons_ne_nil _ _) (isDigit_of_mem_zeros 1) hr.noDigit)
    hr.exponentPart (.inl (List.cons_ne_nil _ _)) ?_
  have hnumber : number (written n ++ List.replicate k '0' ++ ['0']) = n * 10 ^ (k + 1) := by
    rw [List.append_assoc, ← List.replicate_succ', number_append_zeros, number_written]
  have hten : (10 : ℚ) ≠ 0 := by norm_num
  rw [hnumber, Option.getD_none, List.length_singleton, Nat.cast_mul, Nat.cast_pow, Nat.cast_ofNat,
    ← zpow_natCast, mul_assoc, ← zpow_add₀ hten]
  congr 2
  omega

/-- The point stands among the digits. -/
theorem readsAs_mixed (hn : 0 < n) (hr : Ends rest) {k : Nat} (hk : 0 < k)
    (hlt : k < (written n).length) (he : (written n).length + e = k) :
    ReadsAs negative ((written n).take k ++ ('.' :: ((written n).drop k ++ rest))) rest
      (n * 10 ^ e) := by
  obtain ⟨d, hhead, hd0⟩ := head_written hn
  have hd : ∀ c ∈ written n, c.isDigit = true := fun c hc => isDigit_of_mem_written hc
  have hne : (written n).drop k ≠ [] := by
    rw [Ne, List.drop_eq_nil_iff]
    omega
  have hhead' : ((written n).take k).head? = some d := by
    rw [List.head?_take, if_neg hk.ne', hhead]
  refine readsAs_of_parts
    (wholePart_append (fun c hc => hd c (List.mem_of_mem_take hc)) (noDigit_point _)
      (.inr ⟨d, hhead', hd0⟩))
    (fractionPart_append hne (fun c hc => hd c (List.mem_of_mem_drop hc)) hr.noDigit)
    hr.exponentPart (.inl hne) ?_
  have hexp : ((none : Option Int).getD 0 - (((written n).drop k).length : Nat)) = e := by
    rw [List.length_drop, Option.getD_none]
    omega
  rw [List.take_append_drop, number_written, hexp]

/-- One digit and an exponent. -/
theorem readsAs_digit (hn : 0 < n) (hr : Ends rest) {d : Char} (hw : written n = [d]) :
    ReadsAs negative (d :: (exponentText e ++ rest)) rest (n * 10 ^ e) := by
  obtain ⟨d', hhead, hd0⟩ := head_written hn
  have hd : ∀ c ∈ [d], c.isDigit = true := fun c hc => isDigit_of_mem_written (hw ▸ hc)
  have hmark : exponentText e ++ rest = 'e' :: ((exponentText e).tail ++ rest) := rfl
  have hwhole : wholePart ([d] ++ (exponentText e ++ rest)) = some ([d], exponentText e ++ rest) :=
    wholePart_append hd (hmark ▸ by rintro _ ⟨⟩; rfl) (.inr ⟨d', hw ▸ hhead, hd0⟩)
  have hfraction : fractionPart (exponentText e ++ rest) = ([], exponentText e ++ rest) :=
    fractionPart_of_head (hmark ▸ by rintro ⟨⟩)
  refine readsAs_of_parts hwhole hfraction (exponentPart_exponentText e hr.noDigit) (.inr rfl) ?_
  rw [List.append_nil, ← hw, number_written, Option.getD_some, List.length_nil]
  simp

/-- A digit, a point, more digits and an exponent. -/
theorem readsAs_digits (hn : 0 < n) (hr : Ends rest) {d : Char} {ds : List Char} (hds : ds ≠ [])
    (hw : written n = d :: ds) :
    ReadsAs negative (d :: '.' :: (ds ++ (exponentText e ++ rest))) rest
      (n * 10 ^ (e - ds.length)) := by
  obtain ⟨d', hhead, hd0⟩ := head_written hn
  have hd : ∀ c ∈ d :: ds, c.isDigit = true := fun c hc => isDigit_of_mem_written (hw ▸ hc)
  obtain ⟨hdigit, hdigits⟩ := List.forall_mem_cons.1 hd
  have hmark : exponentText e ++ rest = 'e' :: ((exponentText e).tail ++ rest) := rfl
  rw [hw] at hhead
  have hwhole : wholePart ([d] ++ '.' :: (ds ++ (exponentText e ++ rest))) = some ([d], _) :=
    wholePart_append (List.forall_mem_singleton.2 hdigit) (noDigit_point _) (.inr ⟨d', hhead, hd0⟩)
  refine readsAs_of_parts hwhole (fractionPart_append hds hdigits (hmark ▸ by rintro _ ⟨⟩; rfl))
    (exponentPart_exponentText e hr.noDigit) (.inr rfl) ?_
  rw [List.singleton_append, ← hw, number_written, Option.getD_some]

theorem readsAs_positional (hn : 0 < n) (hr : Ends rest) :
    ReadsAs negative (positional true (written n) ((written n).length + e) ++ rest) rest
      (n * 10 ^ e) := by
  unfold positional
  split
  · -- the digits stand behind the point
    obtain ⟨k, hk⟩ := Int.eq_ofNat_of_zero_le (show 0 ≤ -((written n).length + e) by omega)
    have hread : ReadsAs negative _ rest (n * 10 ^ e) := readsAs_small hr k (by omega)
    rw [hk, Int.toNat_natCast]
    exact hread
  simp only
  split
  · -- or before it
    obtain ⟨k, rfl⟩ := Int.eq_ofNat_of_zero_le (show 0 ≤ e by omega)
    have hread : ReadsAs negative _ rest _ := readsAs_whole hn hr k
    have hk : ((written n).length + (k : Int)).toNat - (written n).length = k := by omega
    rw [hk, if_pos trivial, List.append_assoc _ _ rest]
    exact hread
  · -- or on both sides of it
    have hread : ReadsAs negative _ rest _ := readsAs_mixed hn hr (e := e)
      (k := ((written n).length + e).toNat) (by omega) (by omega) (by omega)
    rw [List.append_assoc _ _ rest]
    exact hread

theorem readsAs_scientific (hn : 0 < n) (hr : Ends rest) :
    ReadsAs negative (scientific false (written n) ((written n).length + e - 1) ++ rest) rest
      (n * 10 ^ e) := by
  cases hw : written n with
  | nil => exact absurd hw (written_ne_nil n)
  | cons d ds =>
    cases ds with
    | nil =>
      have hread : ReadsAs negative _ rest _ := readsAs_digit (e := e) hn hr hw
      rw [List.length_singleton, show ((1 : Nat) : Int) + e - 1 = e by omega]
      exact hread
    | cons c cs =>
      have hread : ReadsAs negative _ rest _ :=
        readsAs_digits (e := (c :: cs).length + e) hn hr (List.cons_ne_nil c cs) hw
      rw [add_sub_cancel_left] at hread
      rw [List.length_cons, show (((c :: cs).length + 1 : Nat) : Int) + e - 1
        = ((c :: cs).length : Nat) + e by omega]
      show ReadsAs negative (d :: '.' :: (c :: cs ++ exponentText _ ++ rest)) rest _
      rw [List.append_assoc]
      exact hread

/-- **Digits in either notation have the value that was laid out.** -/
theorem readsAs_writeScaled {s : Scaled} (hs : 0 < s.digits) (hr : Ends rest) :
    ReadsAs negative (numbers.writeScaled s ++ rest) rest s.value := by
  show ReadsAs negative ((if leastPositional < ((written s.digits).length : Int) + s.exponent ∧
      ((written s.digits).length : Int) + s.exponent ≤ 16 then _ else _) ++ rest) rest s.value
  split
  · exact readsAs_positional hs hr
  · exact readsAs_scientific hs hr

/-! ## Scalars -/

theorem wholePart_head {cs : List Char} {p : List Char × List Char} (h : wholePart cs = some p) :
    ∃ c cs', cs = c :: cs' ∧ c.isDigit = true := by
  unfold wholePart at h
  split at h
  · exact ⟨_, _, rfl, rfl⟩
  · split at h
    · exact ⟨_, _, rfl, ‹_›⟩
    · cases h
  · cases h

theorem readNumber_head {cs : List Char} {p : Tree × List Char}
    (h : readNumber negative cs = .ok p) :
    ∃ c cs', cs = c :: cs' ∧ c.isDigit = true := by
  unfold readNumber at h
  split at h
  · cases h
  · exact wholePart_head ‹_›

/-- A number is read as such, with or without a sign. -/
theorem readScalar_of_readNumber (negative : Bool) {cs : List Char} {p : Tree × List Char}
    (h : readNumber negative cs = .ok p) :
    readScalar ((if negative then ['-'] else []) ++ cs) = .ok p := by
  obtain ⟨c, cs, rfl, hc⟩ := readNumber_head h
  have hafter : after? "Infinity".toList (c :: cs) = none := by
    refine if_neg ?_
    rintro rfl
    cases hc
  rw [← h]
  cases negative with
  | true =>
    show readScalar ('-' :: c :: cs) = _
    rw [readScalar, hafter]
  | false =>
    show readScalar (c :: cs) = _
    unfold readScalar
    split
    case h_6 => rw [hafter]
    all_goals
      rename_i heq
      obtain ⟨rfl, -⟩ := List.cons.inj heq
      cases hc

theorem readNumber_of_whole {cs r1 r2 : List Char} (hwhole : wholePart cs = some (ds, r1))
    (hfraction : fractionPart r1 = ([], r2)) (hexponent : exponentPart r2 = (none, rest))
    (hn : readNat (ds.map fun c => c.toNat - '0'.toNat) = .ok n) :
    readNumber negative cs = .ok (.int (if negative then -(n : Int) else n), rest) := by
  rw [readNumber, hwhole]
  simp only [hfraction, hexponent, List.isEmpty_nil, Option.isNone_none, Bool.and_self, if_true]
  have hn' : readNat (ds.map fun c => c.toNat - 0x30) = .ok n := hn
  rw [hn']

/-- An integer is read back, if it has not too many digits. -/
theorem readScalar_int {i : Int} (hi : i.natAbs < 10 ^ maxDigits) (hr : Ends rest) :
    readScalar ((toString i).toList ++ rest) = .ok (.int i, rest) := by
  have hwhole : wholePart (written i.natAbs ++ rest) = some (written i.natAbs, rest) := by
    refine wholePart_append (fun c hc => isDigit_of_mem_written hc) hr.noDigit ?_
    rcases Nat.eq_zero_or_pos i.natAbs with h0 | hpos
    · exact .inl (by rw [h0]; rfl)
    · exact .inr (head_written hpos)
  have hfraction : fractionPart rest = ([], rest) :=
    fractionPart_of_head fun hc => (hr.head_ne hc).1 rfl
  cases i with
  | ofNat n =>
    rw [Int.ofNat_eq_natCast, toList_toString_natCast]
    exact readScalar_of_readNumber false
      (readNumber_of_whole hwhole hfraction hr.exponentPart (readNat_written hi))
  | negSucc n =>
    rw [toList_toString_negSucc]
    exact readScalar_of_readNumber true
      (readNumber_of_whole hwhole hfraction hr.exponentPart (readNat_written hi))

/-- Every double is read back. -/
theorem readScalar_float (x : Float) (hr : Ends rest) :
    readScalar ((numbers.write x).toList ++ rest) = .ok (.float x, rest) := by
  unfold Layout.write
  split
  · rename_i hx
    rw [eq_of_ofFloat_nan hx]
    rfl
  · rename_i hx
    rw [eq_of_ofFloat_infinite hx]
    split <;> rfl
  · rename_i negative m q hx
    obtain ⟨hm, hx⟩ := eq_of_ofFloat_finite hx
    rw [String.toList_ofList, List.append_assoc]
    apply readScalar_of_readNumber negative
    split
    · rename_i h0
      subst h0
      obtain ⟨digits, exponent, hvalue, hread⟩ : ReadsAs negative _ rest _ :=
        readsAs_small (n := 0) (e := -1) hr 0 rfl
      obtain rfl : digits = 0 := by simpa [zpow_ne_zero] using hvalue
      rw [assemble_of_lt (show 0 < hiddenBit by decide)] at hx
      rw [readScaled_zero, ← hx] at hread
      exact hread
    · rename_i h0
      have hpos : 0 < m := Nat.pos_of_ne_zero h0
      have hhas := has_shortest hpos hm
      have hdigits : 0 < (shortest m q).digits := hhas.digits_pos hpos
      obtain ⟨digits, exponent, hvalue, hread⟩ : ReadsAs negative _ rest _ :=
        readsAs_writeScaled hdigits hr
      rw [← hvalue] at hhas
      rw [readScaled_eq negative hpos hm hhas, ← hx] at hread
      exact hread

end PromptRules.Data.Json
