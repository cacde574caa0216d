/-
  Air updates — every JSON text is read as its value.

  The induction is on how the text is written.  What stands behind a value
  matters only to a number, which goes on as long as it can (`Stops`).  The
  calls that read a value nest no deeper than twice the length of its text.
-/
import AirUpdate.Proofs.Grammar
import Mathlib.Data.List.DropRight

namespace AirUpdate.Json

/-! ## Blanks -/

theorem skipBlanks_append {b : List Char} (h : Blank b) (cs : List Char) :
    skipBlanks (b ++ cs) = skipBlanks cs :=
  List.dropWhile_append_of_pos h

theorem skipBlanks_cons {c : Char} (h : isBlank c = false) (cs : List Char) :
    skipBlanks (c :: cs) = c :: cs := by
  simp [skipBlanks, h]

theorem isBlank_iff {c : Char} : isBlank c ↔ c = ' ' ∨ c = '\t' ∨ c = '\n' ∨ c = '\r' := by
  simp [isBlank, or_assoc]

@[simp] theorem skipBlanks_skipBlanks (cs : List Char) :
    skipBlanks (skipBlanks cs) = skipBlanks cs := by
  simp [skipBlanks, List.dropWhile_idempotent]

/-! ## Numbers -/

/-- No character of this kind comes next. -/
def Stops (p : Char → Prop) (rest : List Char) : Prop := ∀ c ∈ rest.head?, ¬p c

/-- The characters that a number may go on with. -/
def Numeric (c : Char) : Prop := isDecimal c ∨ c = '.' ∨ c = 'e' ∨ c = 'E'

/-- The characters that a number may go on with in front of its exponent. -/
def Pointed (c : Char) : Prop := isDecimal c ∨ c = '.'

section
variable {p q : Char → Prop} {ds fs es sign rest : List Char} {f e : Bool}

theorem Stops.mono (h : Stops q rest) (hpq : ∀ c, p c → q c) : Stops p rest :=
  fun c hc hp => h c hc (hpq c hp)

theorem Stops.cons_ne {c d : Char} (h : Stops p (c :: rest)) (hd : p d) : c ≠ d := by
  rintro rfl
  exact h c rfl hd

theorem Exponent.stops (h : Exponent e es) (hrest : Stops Numeric rest) :
    Stops Pointed (es ++ rest) := by
  cases h with
  | none => exact hrest.mono fun c hc => hc.imp id .inl
  | exponent he =>
    rintro c ⟨⟩
    obtain rfl | rfl := he <;> simp [Pointed, isDecimal]

theorem Fraction.stops (h : Fraction f fs) (hrest : Stops Pointed rest) :
    Stops (isDecimal ·) (fs ++ rest) := by
  cases h with
  | none => exact hrest.mono fun c hc => .inl hc
  | point =>
    rintro c ⟨⟩
    simp [isDecimal]

theorem readDigits_append (h : Digits ds) (hrest : Stops (isDecimal ·) rest) :
    readDigits (ds ++ rest) = some (ds, rest) := by
  have stop : rest.takeWhile isDecimal = [] ∧ rest.dropWhile isDecimal = rest := by
    cases rest with
    | nil => simp
    | cons c rest => simpa using hrest c rfl
  obtain ⟨d, ds, rfl⟩ := List.exists_cons_of_ne_nil h.some
  rw [readDigits, List.takeWhile_append_of_pos h.all, List.dropWhile_append_of_pos h.all, stop.1,
    stop.2]
  simp

theorem readWhole_append (h : Whole ds) (hrest : Stops (isDecimal ·) rest) :
    readWhole (ds ++ rest) = some (ds, rest) := by
  cases h with
  | zero => rfl
  | digits h hz =>
    obtain ⟨d, ds, rfl⟩ := List.exists_cons_of_ne_nil h.some
    rw [List.cons_append, readWhole, ← List.cons_append, readDigits_append h hrest]
    simpa using hz

theorem readFraction_append (h : Fraction f fs) (hrest : Stops Pointed rest) :
    readFraction (fs ++ rest) = some (f, rest) := by
  cases h with
  | none =>
    cases rest with
    | nil => rfl
    | cons c rest =>
      rw [List.nil_append, readFraction]
      simpa using hrest.cons_ne (.inr rfl)
  | point h =>
    rw [List.cons_append, readFraction, readDigits_append h (hrest.mono fun c hc => .inl hc)]
    rfl

theorem Digits.head (h : Digits ds) : ∃ d ds', ds = d :: ds' ∧ isDecimal d := by
  obtain ⟨d, ds, rfl⟩ := List.exists_cons_of_ne_nil h.some
  exact ⟨d, ds, rfl, h.all d (by simp)⟩

theorem dropSign_append (h : Sign sign) (hds : Digits ds) (rest : List Char) :
    dropSign (sign ++ (ds ++ rest)) = ds ++ rest := by
  cases h with
  | none =>
    obtain ⟨d, ds, rfl, hd⟩ := hds.head
    have plus : d ≠ '+' := by rintro rfl; simp [isDecimal] at hd
    have minus : d ≠ '-' := by rintro rfl; simp [isDecimal] at hd
    simp [dropSign, plus, minus]
  | plus => rfl
  | minus => rfl

theorem readExponent_append (h : Exponent e es) (hrest : Stops Numeric rest) :
    readExponent (es ++ rest) = some (e, rest) := by
  cases h with
  | none =>
    cases rest with
    | nil => rfl
    | cons c rest =>
      have small : c ≠ 'e' := hrest.cons_ne (by simp [Numeric])
      have large : c ≠ 'E' := hrest.cons_ne (by simp [Numeric])
      simp [readExponent, small, large]
  | exponent he hsign hds =>
    have digits := readDigits_append hds (hrest.mono fun c hc => .inl hc)
    obtain rfl | rfl := he <;> simp [readExponent, dropSign_append hsign hds, digits]

theorem readUnsigned_append (hds : Whole ds) (hf : Fraction f fs) (he : Exponent e es)
    (hrest : Stops Numeric rest) :
    readUnsigned (ds ++ fs ++ es ++ rest) =
      some (if f || e then none else some (ofDecimals ds), rest) := by
  have point := he.stops hrest
  simp [readUnsigned, readWhole_append hds (hf.stops point), readFraction_append hf point,
    readExponent_append he hrest]

end

theorem isDecimal_of_mem_toDigits {n : Nat} {c : Char} (h : c ∈ Nat.toDigits 10 n) :
    isDecimal c := by
  have := Nat.isDigit_of_mem_toDigits (by omega) (by omega) h
  simpa [isDecimal, Char.isDigit, Char.le_def] using this

theorem head_toDigits {n : Nat} (h : n ≠ 0) : (Nat.toDigits 10 n).head? ≠ some '0' := by
  induction n using Nat.strong_induction_on with
  | _ n ih =>
    by_cases small : n < 10
    · simp [Nat.toDigits_of_lt_base small, Nat.digitChar_eq_zero, h]
    · rw [Nat.toDigits_of_base_le (by omega) (by omega),
        List.head?_append_of_ne_nil _ Nat.toDigits_ne_nil]
      exact ih (n / 10) (by omega) (by omega)

theorem whole_toDigits (n : Nat) : Whole (Nat.toDigits 10 n) := by
  by_cases h : n = 0
  · subst h
    exact .zero
  · exact .digits ⟨Nat.toDigits_ne_nil, fun c => isDecimal_of_mem_toDigits⟩ (head_toDigits h)

theorem ofDecimals_toDigits (n : Nat) : ofDecimals (Nat.toDigits 10 n) = n :=
  Nat.ofDigitChars_toDigits (by omega) (by omega)

theorem Whole.toDigits {ds : List Char} (h : Whole ds) : Digits ds := by
  cases h with
  | zero => exact ⟨by simp, by simp [isDecimal]⟩
  | digits h => exact h

/-- A number starts with a digit or a minus. -/
theorem Number.head {n : Option Nat} {t : List Char} (h : Number n t) :
    ∃ c u, t = c :: u ∧ (isDecimal c ∨ c = '-') := by
  cases h with
  | natural n =>
    obtain ⟨d, ds, e, hd⟩ := (whole_toDigits n).toDigits.head
    exact ⟨d, ds, e, .inl hd⟩
  | decimal hds =>
    obtain ⟨d, ds, rfl, hd⟩ := hds.toDigits.head
    exact ⟨d, _, rfl, .inl hd⟩
  | negative => exact ⟨'-', _, rfl, .inr rfl⟩

theorem not_isBlank {c : Char} (h : isDecimal c ∨ c = '-') : isBlank c = false := by
  refine Bool.eq_false_iff.mpr fun blank => ?_
  rcases isBlank_iff.mp blank with rfl | rfl | rfl | rfl <;> simp [isDecimal] at h

theorem readNumber_append {n : Option Nat} {t rest : List Char} (h : Number n t)
    (hrest : Stops Numeric rest) : readNumber (t ++ rest) = some (n, rest) := by
  have unsigned : ∀ {ds cs : List Char}, Whole ds →
      readNumber (ds ++ cs) = readUnsigned (ds ++ cs) := by
    intro ds cs hds
    obtain ⟨d, ds, rfl, hd⟩ := hds.toDigits.head
    have : d ≠ '-' := by rintro rfl; simp [isDecimal] at hd
    simp [readNumber, this]
  cases h with
  | natural n =>
    rw [unsigned (whole_toDigits n)]
    simpa [ofDecimals_toDigits] using readUnsigned_append (whole_toDigits n) .none .none hrest
  | decimal hds hf he some =>
    rw [List.append_assoc, List.append_assoc, unsigned hds]
    simpa [some] using readUnsigned_append hds hf he hrest
  | negative hds hf he =>
    have := readUnsigned_append hds hf he hrest
    simp only [List.append_assoc] at this
    simp [readNumber, this]

/-! ## Strings -/

theorem readPieces_append {ps : List Piece} {t : List Char} (h : Inside ps t) (rest : List Char) :
    readPieces (t ++ '\x22' :: rest) = some (ps, rest) := by
  induction h with
  | nil => rfl
  | plain large quote slash _ ih =>
    rw [List.cons_append, readPieces]
    all_goals simp [large, quote, slash, ih]
  | letter mem _ ih =>
    simp only [letters, List.mem_cons, Prod.mk.injEq, List.not_mem_nil, or_false] at mem
    rcases mem with ⟨rfl, rfl⟩ | ⟨rfl, rfl⟩ | ⟨rfl, rfl⟩ | ⟨rfl, rfl⟩ | ⟨rfl, rfl⟩ | ⟨rfl, rfl⟩ |
      ⟨rfl, rfl⟩ | ⟨rfl, rfl⟩ <;> simp [readPieces, escaped?, ih]
  | unit ha hb hc hd _ ih =>
    simp [readPieces, unit?, ha, hb, hc, hd, ih]
    omega

theorem toNat_le {c d : Char} (h : c ≤ d) : c.toNat ≤ d.toNat := h

theorem hexValue?_lt {c : Char} {n : Nat} (h : hexValue? c = some n) : n < 16 := by
  unfold hexValue? at h
  split_ifs at h with digit lower upper <;> cases h
  · have le : c.toNat ≤ 57 := toNat_le digit.2
    omega
  · have le : c.toNat ≤ 102 := toNat_le lower.2
    omega
  · have le : c.toNat ≤ 70 := toNat_le upper.2
    omega

theorem Inside.unit_lt {ps : List Piece} {t : List Char} (h : Inside ps t) :
    ∀ n, Piece.unit n ∈ ps → n < 0x10000 := by
  induction h with
  | nil => simp
  | plain _ _ _ _ ih => simpa using ih
  | letter _ _ ih => simpa using ih
  | unit ha hb hc hd _ ih =>
    have := hexValue?_lt ha
    have := hexValue?_lt hb
    have := hexValue?_lt hc
    have := hexValue?_lt hd
    intro n hn
    obtain h | h := List.mem_cons.mp hn
    · cases h
      omega
    · exact ih n h

/-- A unit that is no half of a pair is a character. -/
theorem textOf?_unit {n : Nat} (low : isLowSurrogate n = false) (high : isHighSurrogate n = false)
    (rest : List Piece) : textOf? (.unit n :: rest) = (textOf? rest).map (Char.ofNat n :: ·) := by
  rw [textOf?.eq_def]
  simp [low, high]

theorem textOf?_of_denotes {ps : List Piece} {cs : List Char} (h : Denotes ps cs) :
    textOf? ps = some cs := by
  induction h with
  | nil => rfl
  | char _ ih => simp [textOf?, ih]
  | @unit c ps cs small _ ih =>
    have valid : c.toNat < 0xd800 ∨ 0xdfff < c.toNat ∧ c.toNat < 0x110000 := c.valid
    have low : isLowSurrogate c.toNat = false := by simp [isLowSurrogate]; omega
    have high : isHighSurrogate c.toNat = false := by simp [isHighSurrogate]; omega
    simp [textOf?_unit low high, ih]
  | @pair c h l ps cs hh hl hc _ ih =>
    have low : isLowSurrogate (0xd800 + h) = false := by simp [isLowSurrogate]; omega
    have high : isHighSurrogate (0xd800 + h) = true := by simp [isHighSurrogate]; omega
    have second : isLowSurrogate (0xdc00 + l) = true := by simp [isLowSurrogate]; omega
    have char : Char.ofNat (0x10000 + 0x400 * h + l) = c := by rw [← hc, Char.ofNat_toNat]
    simp [textOf?, low, high, second, ih, char]

theorem toNat_ofNat {n : Nat} (h : n.isValidChar) : (Char.ofNat n).toNat = n := by
  rw [Char.ofNat, dif_pos h]
  rfl

theorem denotes_of_textOf? {ps : List Piece} {cs : List Char}
    (units : ∀ n, Piece.unit n ∈ ps → n < 0x10000) (h : textOf? ps = some cs) : Denotes ps cs := by
  induction ps using textOf?.induct generalizing cs with
  | case1 =>
    cases h
    exact .nil
  | case2 c rest ih =>
    obtain ⟨cs, hcs, rfl⟩ := Option.map_eq_some_iff.mp h
    exact .char (ih (fun n hn => units n (List.mem_cons_of_mem _ hn)) hcs)
  | case3 n rest low => rw [textOf?.eq_def] at h; simp [low] at h
  | case4 n low high m rest low' ih =>
    simp only [textOf?, low, high, low'] at h
    obtain ⟨cs, hcs, rfl⟩ := Option.map_eq_some_iff.mp h
    simp only [isLowSurrogate, isHighSurrogate, Bool.and_eq_true, decide_eq_true_eq]
      at low high low'
    obtain ⟨i, rfl⟩ := Nat.exists_eq_add_of_le high.1
    obtain ⟨j, rfl⟩ := Nat.exists_eq_add_of_le low'.1
    simp only [Nat.add_sub_cancel_left]
    have valid : (0x10000 + 0x400 * i + j).isValidChar := .inr (by omega)
    refine .pair (by omega) (by omega) (toNat_ofNat valid) (ih (fun n hn => ?_) hcs)
    exact units n (by simp [hn])
  | case5 n low high m rest low' => simp [textOf?, low, high, low'] at h
  | case6 n rest low high other =>
    rw [textOf?, if_neg low, if_pos high] at h
    · cases h
    · exact other
  | case7 n rest low high ih =>
    simp only [Bool.not_eq_true] at low high
    rw [textOf?_unit low high] at h
    obtain ⟨cs, hcs, rfl⟩ := Option.map_eq_some_iff.mp h
    have small : n < 0x10000 := units n (by simp)
    have valid : n.isValidChar := by
      simp [isLowSurrogate, isHighSurrogate] at low high
      simp only [Nat.isValidChar]
      omega
    have toNat := toNat_ofNat valid
    have denotes := ih (fun m hm => units m (List.mem_cons_of_mem _ hm)) hcs
    simpa [toNat] using Denotes.unit (c := Char.ofNat n) (by omega) denotes

theorem readString_append {s : Option String} {t : List Char} (h : Quoted s t) (rest : List Char) :
    ∃ u, t = '\x22' :: u ∧ readString (u ++ rest) = some (s, rest) := by
  cases h with
  | text inside denotes =>
    refine ⟨_, rfl, ?_⟩
    simp [readString, readPieces_append inside, textOf?_of_denotes denotes]
  | @textless ps t inside textless =>
    refine ⟨_, rfl, ?_⟩
    have : textOf? ps = none := by
      refine Option.eq_none_iff_forall_ne_some.mpr fun cs hcs => ?_
      exact textless cs (denotes_of_textOf? inside.unit_lt hcs)
    simp [readString, readPieces_append inside, this]

/-! ## Values

What the reader does once it has seen the first character. -/

section
variable {depth : Nat} {rest : List Char}

theorem readValue_skipBlanks (depth : Nat) (cs : List Char) :
    readValue depth (skipBlanks cs) = readValue depth cs := by
  cases depth <;> simp [readValue]

theorem readItems_skipBlanks (depth : Nat) (cs : List Char) :
    readItems depth (skipBlanks cs) = readItems depth cs := by
  cases depth <;> simp [readItems, readValue_skipBlanks]

theorem readMembers_skipBlanks (depth : Nat) (cs : List Char) :
    readMembers depth (skipBlanks cs) = readMembers depth cs := by
  cases depth <;> simp [readMembers]

theorem readValue_number {c : Char} (h : isDecimal c ∨ c = '-') :
    readValue (depth + 1) (c :: rest) =
      (readNumber (c :: rest)).map fun r => (.number r.1, r.2) := by
  rw [readValue, skipBlanks_cons (not_isBlank h)]
  split <;> rename_i e
  all_goals first
    | rfl
    | (cases e; simp [isDecimal] at h)

theorem readValue_array {cs : List Char} (h : (skipBlanks cs).head? ≠ some ']') :
    readValue (depth + 1) ('[' :: cs) = (readItems depth cs).map fun r => (.array r.1, r.2) := by
  rw [readValue, skipBlanks_cons rfl]
  simp only
  split
  · next e => simp [e] at h
  · rw [readItems_skipBlanks]

theorem readValue_object {cs : List Char} (h : (skipBlanks cs).head? ≠ some '\x7d') :
    readValue (depth + 1) ('\x7b' :: cs) =
      (readMembers depth cs).map fun r => (.object r.1, r.2) := by
  rw [readValue, skipBlanks_cons rfl]
  simp only
  split
  · next e => simp [e] at h
  · rw [readMembers_skipBlanks]

end

/-! ## The texts of values -/

theorem Quoted.head {s : Option String} {t : List Char} (h : Quoted s t) :
    ∃ u, t = '\x22' :: u := by
  cases h <;> exact ⟨_, rfl⟩

/-- A value starts with no blank and no closing bracket. -/
theorem Bare.head {v : Json} {t : List Char} (h : Bare v t) :
    ∃ c u, t = c :: u ∧ isBlank c = false ∧ c ≠ ']' := by
  cases h with
  | number h =>
    obtain ⟨c, u, rfl, hc⟩ := h.head
    refine ⟨c, u, rfl, not_isBlank hc, ?_⟩
    rintro rfl
    simp [isDecimal] at hc
  | string h =>
    obtain ⟨u, rfl⟩ := h.head
    exact ⟨_, u, rfl, rfl, by simp⟩
  | _ => exact ⟨_, _, rfl, rfl, by simp⟩

theorem Written.head {v : Json} {t : List Char} (h : Written v t) (rest : List Char) :
    (skipBlanks (t ++ rest)).head? ≠ some ']' := by
  obtain ⟨ha, h, hb⟩ := h
  obtain ⟨c, u, rfl, hc, close⟩ := h.head
  rw [List.append_assoc, List.append_assoc, skipBlanks_append ha, List.cons_append,
    skipBlanks_cons hc]
  simpa using close

theorem Items.head {vs : List Json} {t : List Char} (h : Items vs t) (rest : List Char) :
    (skipBlanks (t ++ rest)).head? ≠ some ']' := by
  cases h with
  | last h => exact h.head rest
  | more h => rw [List.append_assoc]; exact h.head _

theorem Name.reads {n : Option String} {t : List Char} (h : Name n t) (rest : List Char) :
    ∃ u b, Blank b ∧ skipBlanks (t ++ rest) = '\x22' :: u ∧
      readString u = some (n, b ++ rest) := by
  obtain ⟨ha, h, hb⟩ := h
  obtain ⟨u, rfl, e⟩ := readString_append h (_ ++ rest)
  refine ⟨_, _, hb, ?_, e⟩
  rw [List.append_assoc, List.append_assoc, skipBlanks_append ha, List.cons_append,
    skipBlanks_cons rfl]

theorem Members.head {ms : List (Option String × Json)} {t : List Char} (h : Members ms t)
    (rest : List Char) : (skipBlanks (t ++ rest)).head? ≠ some '\x7d' := by
  cases h with
  | last h | more h =>
    obtain ⟨u, b, -, e, -⟩ := h.reads (':' :: _ ++ rest)
    rw [List.append_assoc, e]
    simp

/-- A number ends in front of blanks if it ends in front of what follows them. -/
theorem stops_append {b rest : List Char} (hb : Blank b) (h : Stops Numeric rest) :
    Stops Numeric (b ++ rest) := by
  cases b with
  | nil => exact h
  | cons c b =>
    rintro d ⟨⟩ numeric
    rcases isBlank_iff.mp (hb c (by simp)) with rfl | rfl | rfl | rfl <;>
      simp [Numeric, isDecimal] at numeric

theorem stops_cons {c : Char} (h : ¬Numeric c) (rest : List Char) : Stops Numeric (c :: rest) := by
  rintro d ⟨⟩
  exact h

theorem not_numeric : ¬Numeric ',' ∧ ¬Numeric ']' ∧ ¬Numeric '\x7d' := by
  simp [Numeric, isDecimal]

-- One induction over all four relations; the bounds leave a call for each
-- bracket and each comma.
mutual

theorem Bare.reads {v t} : Bare v t → ∀ {d rest}, 2 * t.length ≤ d → Stops Numeric rest →
    readValue d (t ++ rest) = some (v, rest)
  | .null, d + 1, _, _, _ => by simp [readValue, skipBlanks_cons, isBlank, readWord]
  | .tt, d + 1, _, _, _ => by simp [readValue, skipBlanks_cons, isBlank, readWord]
  | .ff, d + 1, _, _, _ => by simp [readValue, skipBlanks_cons, isBlank, readWord]
  | .number h, d, rest, hd, hrest => by
    obtain ⟨c, u, rfl, hc⟩ := h.head
    obtain ⟨d, rfl⟩ : ∃ k, d = k + 1 := Nat.exists_eq_add_one.mpr (by simp at hd; omega)
    have number := readNumber_append h hrest
    rw [List.cons_append] at number ⊢
    rw [readValue_number hc, number]
    rfl
  | .string h, d, rest, hd, _ => by
    obtain ⟨u, rfl, string⟩ := readString_append h rest
    obtain ⟨d, rfl⟩ : ∃ k, d = k + 1 := Nat.exists_eq_add_one.mpr (by simp at hd; omega)
    simp [readValue, skipBlanks_cons, isBlank, string]
  | .noItems hb, d + 1, rest, _, _ => by
    simp [readValue, skipBlanks_cons, skipBlanks_append hb, isBlank]
  | .items h, d + 1, rest, hd, _ => by
    simp only [List.length_cons, List.length_append, List.length_nil] at hd
    rw [List.cons_append, List.append_assoc, readValue_array (h.head _), List.singleton_append,
      h.reads (by omega)]
    rfl
  | .noMembers hb, d + 1, rest, _, _ => by
    simp [readValue, skipBlanks_cons, skipBlanks_append hb, isBlank]
  | .members h, d + 1, rest, hd, _ => by
    simp only [List.length_cons, List.length_append, List.length_nil] at hd
    rw [List.cons_append, List.append_assoc, readValue_object (h.head _), List.singleton_append,
      h.reads (by omega)]
    rfl

theorem Written.reads {v t} : Written v t → ∀ {d rest}, 2 * t.length ≤ d →
    Stops Numeric rest → ∃ b, Blank b ∧ readValue d (t ++ rest) = some (v, b ++ rest)
  | @Written.mk v a t b ha h hb, d, rest, hd, hrest => by
    simp only [List.length_append] at hd
    refine ⟨b, hb, ?_⟩
    rw [List.append_assoc, List.append_assoc, ← readValue_skipBlanks, skipBlanks_append ha,
      readValue_skipBlanks, h.reads (by omega) (stops_append hb hrest)]

theorem Items.reads {vs t} : Items vs t → ∀ {d rest}, 2 * t.length + 1 ≤ d →
    readItems d (t ++ ']' :: rest) = some (vs, rest)
  | .last h, d + 1, rest, hd => by
    obtain ⟨b, hb, value⟩ := h.reads (d := d) (by omega) (stops_cons not_numeric.2.1 rest)
    simp [readItems, value, skipBlanks_append hb, skipBlanks_cons, isBlank]
  | @Items.more v t vs u h hu, d + 1, rest, hd => by
    simp only [List.length_cons, List.length_append] at hd
    obtain ⟨b, hb, value⟩ := h.reads (d := d) (by omega)
      (stops_cons not_numeric.1 (u ++ ']' :: rest))
    have others : readItems d (u ++ ']' :: rest) = some (vs, rest) := hu.reads (by omega)
    simp [readItems, value, skipBlanks_append hb, skipBlanks_cons, isBlank, others]

theorem Members.reads {ms t} : Members ms t → ∀ {d rest}, 2 * t.length + 1 ≤ d →
    readMembers d (t ++ '\x7d' :: rest) = some (ms, rest)
  | @Members.last n s v t hs h, d + 1, rest, hd => by
    simp only [List.length_cons, List.length_append] at hd
    obtain ⟨w, a, ha, quote, name⟩ := hs.reads (':' :: (t ++ '\x7d' :: rest))
    obtain ⟨b, hb, value⟩ := h.reads (d := d) (by omega) (stops_cons not_numeric.2.2 rest)
    simp [readMembers, quote, name, skipBlanks_append ha, value, skipBlanks_append hb,
      skipBlanks_cons, isBlank]
  | @Members.more n s v t ms u hs h hu, d + 1, rest, hd => by
    simp only [List.length_cons, List.length_append] at hd
    obtain ⟨w, a, ha, quote, name⟩ := hs.reads (':' :: (t ++ ',' :: (u ++ '\x7d' :: rest)))
    obtain ⟨b, hb, value⟩ := h.reads (d := d) (by omega)
      (stops_cons not_numeric.1 (u ++ '\x7d' :: rest))
    have others : readMembers d (u ++ '\x7d' :: rest) = some (ms, rest) := hu.reads (by omega)
    simp [readMembers, quote, name, skipBlanks_append ha, value, skipBlanks_append hb,
      skipBlanks_cons, isBlank, others]

end

/-- **Every JSON text is read as its value.** -/
theorem ofText?_of_written {v : Json} {t : List Char} (h : Written v t) : ofText? t = some v := by
  have stops : Stops Numeric [] := by simp [Stops]
  obtain ⟨b, hb, value⟩ := h.reads (d := 2 * t.length + 2) (by omega) stops
  simp only [List.append_nil] at value
  have blank : skipBlanks b = [] := List.dropWhile_eq_nil_iff.mpr hb
  simp [ofText?, value, blank]

end AirUpdate.Json
