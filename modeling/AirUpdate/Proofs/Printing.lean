/-
  Air updates — written settings are a JSON text.

  The writer escapes what has to be escaped and puts no blanks anywhere; what
  it writes is one of the texts of the object of all fields.
-/
import AirUpdate.Proofs.Parsing
import AirUpdate.Settings.Printer

namespace AirUpdate.Json

/-! ## Strings -/

/-- A character inside a string is written as one piece, which stands for it. -/
theorem exists_piece (c : Char) : ∃ p : Piece,
    (∀ {ps t}, Inside ps t → Inside (p :: ps) (escapedChar c ++ t)) ∧
      ∀ {ps cs}, Denotes ps cs → Denotes (p :: ps) (c :: cs) := by
  unfold escapedChar
  split_ifs with quote slash b t n f r control
  any_goals
    subst c
    exact ⟨.char _, .letter (by simp [letters]), .char⟩
  · have hi := hexValue?_hexDigit ⟨c.toNat / 16, by omega⟩
    have lo := hexValue?_hexDigit ⟨c.toNat % 16, by omega⟩
    have number : 0x1000 * 0 + 0x100 * 0 + 0x10 * (c.toNat / 16) + c.toNat % 16 = c.toNat := by
      omega
    refine ⟨.unit c.toNat, fun h => ?_, .unit (by omega)⟩
    simpa only [number, List.cons_append, List.nil_append] using
      Inside.unit (i := 0) (j := 0) rfl rfl hi lo h
  · exact ⟨.char c, .plain (by omega) quote slash, .char⟩

theorem quoted_stringText (s : String) : Quoted (some s) (stringText s) := by
  have pieces : ∀ cs : List Char, ∃ ps, Inside ps (cs.flatMap escapedChar) ∧ Denotes ps cs := by
    intro cs
    induction cs with
    | nil => exact ⟨[], .nil, .nil⟩
    | cons c cs ih =>
      obtain ⟨ps, inside, denotes⟩ := ih
      obtain ⟨p, written, stands⟩ := exists_piece c
      exact ⟨p :: ps, written inside, stands denotes⟩
  obtain ⟨ps, inside, denotes⟩ := pieces s.toList
  exact .text inside denotes

/-! ## Objects -/

theorem Bare.written {v : Json} {t : List Char} (h : Bare v t) : Written v t := by
  simpa using Written.mk (a := []) (b := []) (by simp [Blank]) h (by simp [Blank])

theorem name_stringText (n : String) : Name (some n) (stringText n) := by
  simpa using Name.mk (a := []) (b := []) (by simp [Blank]) (quoted_stringText n) (by simp [Blank])

/-- Named values as the members of an object. -/
def members (xs : List (String × Json)) : List (Option String × Json) :=
  xs.map fun x => (some x.1, x.2)

/-- A member with its written value. -/
def WrittenMember (m : String × List Char) (x : String × Json) : Prop :=
  m.1 = x.1 ∧ Written x.2 m.2

theorem members_intercalate {ms : List (String × List Char)} {xs : List (String × Json)}
    (h : List.Forall₂ WrittenMember ms xs) (some : ms ≠ []) :
    Members (members xs) (List.intercalate [','] (ms.map memberText)) := by
  induction h with
  | nil => exact absurd rfl some
  | @cons m x ms xs hm hms ih =>
    obtain ⟨n, t⟩ := m
    obtain ⟨_, v⟩ := x
    obtain ⟨rfl, value⟩ := hm
    cases hms with
    | nil => simpa [members, memberText] using Members.last (name_stringText n) value
    | cons =>
      simpa [members, memberText] using Members.more (name_stringText n) value (ih (by simp))

theorem written_objectText {ms : List (String × List Char)} {xs : List (String × Json)}
    (h : List.Forall₂ WrittenMember ms xs) (some : ms ≠ []) :
    Written (.object (members xs)) (objectText ms) :=
  (Bare.members (members_intercalate h some)).written

theorem written_naturalText (n : Nat) : Written (.number (some n)) (naturalText n) :=
  (Bare.number (.natural n)).written

theorem written_stringText (s : String) : Written (.string (some s)) (stringText s) :=
  (Bare.string (quoted_stringText s)).written

theorem written_boolText (b : Bool) : Written (.bool b) (boolText b) := by
  cases b
  · exact Bare.ff.written
  · exact Bare.tt.written

end AirUpdate.Json
