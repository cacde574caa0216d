/-
  Air updates — what the program takes from a settings file.

  A file with a JSON object that gives fields of some settings leaves the
  defaults but for these fields (`load_overridden`).  Written settings give all
  fields, so they are read back.  A field that is given twice, of the update
  or of its session, spoils the file; so does a member whose name has no text,
  and so does everything that is no JSON text (`load_eq_ok_iff`).
-/
import AirUpdate.Proofs.Encoding
import AirUpdate.Proofs.Overrides
import AirUpdate.Proofs.Recognition
import AirUpdate.Settings.File

namespace AirUpdate.UpdateConfig

open Json

section
variable {fs : Files} {path : String} {ms : List (Option String × Json)} {t : List Char}

/-! ## Written settings -/

/-- All fields with their values. -/
def allValues (c : UpdateConfig) : List (String × Json) :=
  c.values ++ [("session", .object (Json.members c.session.values))]

theorem written_text (c : UpdateConfig) :
    Written (.object (Json.members c.allValues)) c.text.toList := by
  have session : List.Forall₂ WrittenMember c.session.members c.session.values := by
    simp [SessionConfig.members, SessionConfig.values, WrittenMember, written_naturalText,
      written_boolText]
  have all : List.Forall₂ WrittenMember c.members c.allValues := by
    simp [members, allValues, values, WrittenMember, written_naturalText, written_stringText,
      written_objectText session (by simp [SessionConfig.members])]
  rw [text, String.toList_ofList]
  exact written_objectText all (by simp [members])

theorem givenBy_allValues (c : UpdateConfig) :
    c.GivenBy fieldNames SessionConfig.fieldNames (Json.members c.allValues) := by
  have session : c.session.GivenBy SessionConfig.fieldNames (Json.members c.session.values) :=
    gives_members rfl (List.Subset.refl _) (by decide) fun x hx => hx
  refine gives_members rfl (List.Subset.refl _) (by decide) fun x hx => ?_
  obtain hx | hx := List.mem_append.mp hx
  · exact .inl hx
  · obtain rfl := List.mem_singleton.mp hx
    exact .inr ⟨rfl, _, rfl, session⟩

/-! ## Objects that are refused -/

/-- A field of the update or of its session is given twice. -/
def Repeats (ms : List (Option String × Json)) : Prop :=
  (∃ n ∈ fieldNames, Twice n ms) ∨
    ∃ inner, (some "session", .object inner) ∈ ms ∧ ∃ n ∈ SessionConfig.fieldNames, Twice n inner

theorem readRecord_of_repeats (h : Repeats ms) (c : UpdateConfig) :
    schema.readRecord c (.object ms) = none := by
  obtain ⟨n, known, twice⟩ | ⟨inner, session, n, known, twice⟩ := h
  · rw [← names_schema] at known
    have refuses : schema.Refuses [] ms := Schema.refuses_twice twice known
    exact refuses (List.Subset.refl []) c
  · rw [← SessionConfig.names_schema] at known
    have inside : SessionConfig.schema.Refuses [] inner := Schema.refuses_twice twice known
    have refuses : schema.Refuses [] ms := by
      refine Schema.refuses_value session (by simp [Schema.names, schema]) fun f hf name c => ?_
      simp only [schema, List.mem_cons, List.not_mem_nil, or_false] at hf
      rcases hf with rfl | rfl | rfl | rfl | rfl <;> simp at name
      simp [Schema.readRecord, inside (List.Subset.refl [])]
    exact refuses (List.Subset.refl []) c

/-! ## Files -/

/-- A file with a text holds the settings of the text, if it is one of settings. -/
theorem load_of_text (file : fs.read path = .ok (Utf8.encode t)) :
    load fs path = (ofText? t).elim (.error (.invalid path)) .ok := by
  rw [load, file]
  simp only [Utf8.decode?_encode]
  cases ofText? t <;> rfl

theorem load_of_written {v : Json} (ht : Written v t) (file : fs.read path = .ok (Utf8.encode t)) :
    load fs path = (schema.readRecord .default v).elim (.error (.invalid path)) .ok := by
  rw [load_of_text file, ofText?, ofText?_of_written ht]
  rfl

/-- **Settings come from JSON texts alone**, and from those of values that are
    records of settings. -/
theorem load_eq_ok_iff {c : UpdateConfig} (file : fs.read path = .ok (Utf8.encode t)) :
    load fs path = .ok c ↔ ∃ v, Written v t ∧ schema.readRecord .default v = some c := by
  have text : ofText? t = some c ↔ ∃ v, Written v t ∧ schema.readRecord .default v = some c := by
    simp [ofText?, Option.bind_eq_some_iff, ofText?_eq_some_iff]
  rw [load_of_text file, ← text]
  cases ofText? t <;> simp

/-- A member whose name has no text spoils the file, whatever its value is. -/
theorem load_nameless {v : Json} (h : (none, v) ∈ ms) (ht : Written (.object ms) t)
    (file : fs.read path = .ok (Utf8.encode t)) : load fs path = .error (.invalid path) := by
  have refuses : schema.Refuses [] ms := Schema.refuses_nameless h
  rw [load_of_written ht file, Schema.readRecord, refuses (List.Subset.refl [])]
  rfl

end

/-- **A settings file overrides the defaults field by field.**  The file of an
    object that gives fields of `c` leaves the defaults but for these fields;
    the file that is written for `c` gives `c`; and the file of an object in
    which a field stands twice is refused. -/
theorem load_overridden (fs : Files) (path : String) :
    (∀ (c : UpdateConfig) (chosen inner : List String) (ms : List (Option String × Json))
      (t : List Char), c.GivenBy chosen inner ms → Written (.object ms) t →
        fs.read path = .ok (Utf8.encode t) → load fs path = .ok (c.overridden chosen inner)) ∧
    (∀ c : UpdateConfig, fs.read path = .ok (Utf8.encode c.text.toList) → load fs path = .ok c) ∧
    ∀ (ms : List (Option String × Json)) (t : List Char), Repeats ms → Written (.object ms) t →
      fs.read path = .ok (Utf8.encode t) → load fs path = .error (.invalid path) := by
  have override : ∀ (c : UpdateConfig) (chosen inner : List String)
      (ms : List (Option String × Json)) (t : List Char), c.GivenBy chosen inner ms →
        Written (.object ms) t → fs.read path = .ok (Utf8.encode t) →
          load fs path = .ok (c.overridden chosen inner) := by
    intro c chosen inner ms t given written file
    rw [load_of_written written file, c.readRecord_of_givenBy given]
    rfl
  refine ⟨override, fun c file => ?_, fun ms t repeats written file => ?_⟩
  · simpa [overridden_fieldNames] using
      override c _ _ _ _ c.givenBy_allValues c.written_text file
  · rw [load_of_written written file, readRecord_of_repeats repeats]
    rfl

/-- A place with one file, `c.json`. -/
def filesWith (t : List Char) : Files where
  place := []
  entries := [(["c.json"], .file (Utf8.encode t))]

theorem read_filesWith (t : List Char) : (filesWith t).read "c.json" = .ok (Utf8.encode t) := by
  have names : "c.json".splitOn "/" = ["c.json"] := by
    rw [String.splitOn, if_neg (by decide)]
    iterate 6 rw [String.splitOnAux, if_neg (by decide), if_neg (by decide)]
    rw [String.splitOnAux, if_pos (by decide)]
    decide
  have length : "c.json".utf8ByteSize = 6 := by decide
  simp [Files.read, Files.find, names, length, Files.maximumPathLength, Files.maximumNameLength,
    Files.follow, Files.node?, filesWith]

/-- A pacing of 50 for the session, behind a member with another name. -/
def paced : List (Option String × Json) :=
  [(some "later", .array []),
   (some "session", .object [(some "pacing_ms", .number (some 50))])]

def pacedText : List Char := "\x7b\"later\": [ ],\"session\":\x7b\"pacing_ms\":50\x7d\x7d".toList

theorem written_paced : Written (.object paced) pacedText := by
  have none : Blank [] := by simp [Blank]
  have blank : Blank [' '] := by simp [Blank, isBlank]
  have later : Written (.array []) " [ ]".toList := .mk blank (.noItems blank) none
  have pacing : Members [(some "pacing_ms", .number (some 50))] "\"pacing_ms\":50".toList :=
    .last (name_stringText "pacing_ms") (written_naturalText 50)
  have session : Members [(some "session", .object [(some "pacing_ms", .number (some 50))])]
      "\"session\":\x7b\"pacing_ms\":50\x7d".toList :=
    .last (name_stringText "session") (Bare.members pacing).written
  exact (Bare.members (.more (name_stringText "later") later session)).written

/-- Settings with that pacing, and other fields that are no defaults either. -/
def brisk : UpdateConfig where
  deviceName := "Bench"
  scanSecs := 1
  connectAttempts := 1
  rebootWaitSecs := 1
  session := { SessionConfig.default with pacing := 50, startAttempts := 1 }

theorem givenBy_paced : brisk.GivenBy ["session"] ["pacing_ms"] paced := by
  have session : brisk.session.GivenBy ["pacing_ms"] [(some "pacing_ms", .number (some 50))] :=
    .field (by simp [SessionConfig.fieldNames]) (by simp)
      (by simp [SessionConfig.values, brisk]) .nil
  exact .other (by simp [fieldNames])
    (.field (by simp [fieldNames]) (by simp) (.inr ⟨rfl, _, rfl, session⟩) .nil)

theorem load_overridden_of_paced :
    load (filesWith pacedText) "c.json" =
        .ok { default with session := { SessionConfig.default with pacing := 50 } } ∧
      load (filesWith brisk.text.toList) "c.json" = .ok brisk ∧
      load (filesWith "\x7b\"session\":[],\"session\":[]\x7d".toList) "c.json" =
        .error (.invalid "c.json") := by
  refine ⟨?_, (load_overridden _ _).2.1 brisk (read_filesWith _), ?_⟩
  · have loaded :=
      (load_overridden _ _).1 brisk _ _ _ _ givenBy_paced written_paced (read_filesWith _)
    rw [loaded]
    simp [overridden, SessionConfig.overridden, brisk, default]
  · have member : Written (.array []) "[]".toList :=
      (Bare.noItems (b := []) (by simp [Blank])).written
    have name : Name (some "session") "\"session\"".toList := name_stringText "session"
    have written := (Bare.members (.more name member (.last name member))).written
    have twice : Repeats [(some "session", .array []), (some "session", .array [])] :=
      .inl ⟨"session", by simp [fieldNames], _, _, List.Sublist.refl _⟩
    exact (load_overridden _ _).2.2 _ _ twice written (read_filesWith _)

/-- The only member of this object is no field, and its value is a number.  But
    its name is half a surrogate pair: the object is refused, and the defaults
    do not hold. -/
theorem load_half_surrogate :
    Written (.object [(none, .number (some 1))]) "\x7b\"\\ud800\":1\x7d".toList ∧
      load (filesWith "\x7b\"\\ud800\":1\x7d".toList) "c.json" = .error (.invalid "c.json") ∧
      load (filesWith "\x7b\"\\ud800\":1\x7d".toList) "c.json" ≠ .ok default := by
  have inside : Inside [.unit 0xd800] "\\ud800".toList :=
    .unit (i := 13) (j := 8) (k := 0) (l := 0) (by decide) (by decide) (by decide) (by decide) .nil
  have textless : ∀ cs, ¬Denotes [.unit 0xd800] cs := by
    intro cs denotes
    have text := textOf?_of_denotes denotes
    simp [textOf?, isLowSurrogate, isHighSurrogate] at text
  have name : Name none "\"\\ud800\"".toList :=
    .mk (a := []) (b := []) (by simp [Blank]) (.textless inside textless) (by simp [Blank])
  have written : Written (.object [(none, .number (some 1))]) "\x7b\"\\ud800\":1\x7d".toList :=
    (Bare.members (.last name (written_naturalText 1))).written
  have refused := load_nameless (List.mem_singleton_self _) written (read_filesWith _)
  refine ⟨written, refused, ?_⟩
  rw [refused]
  simp

end AirUpdate.UpdateConfig
