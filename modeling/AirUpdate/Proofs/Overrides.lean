/-
  Air updates — what a settings file sets.

  The members of an object give fields of a record: known names with a value
  of that field, each at most once, among members with other names (`Gives`).
  Reading them puts the values of these fields into the defaults and leaves
  every other field (`overridden`), whatever the order, the blanks and the way
  strings are written.
-/
import AirUpdate.Proofs.Printing
import AirUpdate.Settings.Reader

namespace AirUpdate

open Json

/-! ## Records -/

/-- The members of an object give the fields `chosen`, in this order.  `fits n v`
    is that `v` is a value for the field `n`. -/
inductive Gives (fields : List String) (fits : String → Json → Prop) :
    List String → List (Option String × Json) → Prop where
  | nil : Gives fields fits [] []
  | other {n v chosen ms} : n ∉ fields → Gives fields fits chosen ms →
      Gives fields fits chosen ((some n, v) :: ms)
  | field {n v chosen ms} : n ∈ fields → n ∉ chosen → fits n v → Gives fields fits chosen ms →
      Gives fields fits (n :: chosen) ((some n, v) :: ms)

/-- Fields with their values are members that give them. -/
theorem gives_members {fields names : List String} {fits : String → Json → Prop}
    {xs : List (String × Json)} (hnames : xs.map (·.1) = names) (known : names ⊆ fields)
    (distinct : names.Nodup) (values : ∀ x ∈ xs, fits x.1 x.2) :
    Gives fields fits names (Json.members xs) := by
  subst hnames
  induction xs with
  | nil => exact .nil
  | cons x xs ih =>
    simp only [List.map_cons, List.cons_subset, List.nodup_cons, List.forall_mem_cons]
      at known distinct values
    exact .field known.1 distinct.1 values.1 (ih values.2 known.2 distinct.2)

/-- Two members have this name. -/
def Twice (n : String) (ms : List (Option String × Json)) : Prop :=
  ∃ v w, [(some n, v), (some n, w)].Sublist ms

namespace Schema
variable {C : Type} {schema : Schema C} {n : String} {v : Json} {ms : List (Option String × Json)}
variable {seen : List String}

def names (schema : Schema C) : List String := schema.map (·.name)

/-- A member with another name is passed over. -/
theorem setMembers_other (h : n ∉ schema.names) (c : C) :
    schema.setMembers seen ((some n, v) :: ms) c = schema.setMembers seen ms c := by
  have none : schema.find? (fun f => f.name = n) = none := by
    simp only [List.find?_eq_none, decide_eq_true_eq]
    rintro f hf rfl
    exact h (List.mem_map_of_mem hf)
  rw [setMembers, none]

/-- A member with the name of a field sets it, if nothing has set it before. -/
theorem setMembers_field (h : n ∈ schema.names) :
    ∃ f ∈ schema, f.name = n ∧ ∀ seen v ms c, schema.setMembers seen ((some n, v) :: ms) c =
      if n ∈ seen then none else (f.set v c).bind (schema.setMembers (n :: seen) ms) := by
  obtain ⟨f, hf, rfl⟩ := List.mem_map.mp h
  cases e : schema.find? (fun g => g.name = f.name) with
  | none => simpa using List.find?_eq_none.mp e f hf
  | some g =>
    refine ⟨g, List.mem_of_find?_eq_some e, by simpa using List.find?_some e, fun seen v ms c => ?_⟩
    rw [setMembers, e]
    rfl

/-- What the fields that an object gives make of a record: `record seen` is the
    record in which the fields `seen` are set. -/
theorem setMembers_of_gives {fits : String → Json → Prop} {record : List String → C}
    (congr : ∀ {a b : List String}, (∀ n, n ∈ a ↔ n ∈ b) → record a = record b)
    (sets : ∀ f ∈ schema, ∀ seen v, fits f.name v →
      f.set v (record seen) = some (record (f.name :: seen)))
    {chosen : List String} (h : Gives schema.names fits chosen ms) :
    ∀ {seen}, (∀ n ∈ chosen, n ∉ seen) →
      schema.setMembers seen ms (record seen) = some (record (chosen ++ seen)) := by
  induction h with
  | nil => simp [setMembers]
  | other unknown _ ih =>
    intro seen fresh
    rw [setMembers_other unknown, ih fresh]
  | @field n v chosen ms known once value _ ih =>
    intro seen fresh
    obtain ⟨f, hf, rfl, step⟩ := setMembers_field known
    have fresh' : ∀ n ∈ chosen, n ∉ f.name :: seen := by
      intro n hn mem
      obtain rfl | mem := List.mem_cons.mp mem
      · exact once hn
      · exact fresh n (by simp [hn]) mem
    rw [step, if_neg (fresh _ (by simp)), sets f hf seen v value, Option.bind_some, ih fresh']
    exact congrArg some (congr (by simp; tauto))

theorem readRecord_of_gives {fits : String → Json → Prop} (record : List String → C)
    (congr : ∀ {a b : List String}, (∀ n, n ∈ a ↔ n ∈ b) → record a = record b)
    (sets : ∀ f ∈ schema, ∀ seen v, fits f.name v →
      f.set v (record seen) = some (record (f.name :: seen)))
    {chosen : List String} (h : Gives schema.names fits chosen ms) :
    schema.readRecord (record []) (.object ms) = some (record chosen) := by
  simpa [readRecord] using setMembers_of_gives congr sets h fun n _ => List.not_mem_nil

/-! ## Objects that are refused -/

/-- These members are refused once the fields `seen` are set, whatever else is. -/
def Refuses (schema : Schema C) (seen : List String) (ms : List (Option String × Json)) : Prop :=
  ∀ {more : List String}, seen ⊆ more → ∀ c : C, schema.setMembers more ms c = none

theorem Refuses.cons (h : schema.Refuses seen ms) (m : Option String × Json) :
    schema.Refuses seen (m :: ms) := by
  intro more sub c
  obtain ⟨_ | n, v⟩ := m
  · rfl
  · by_cases known : n ∈ schema.names
    · obtain ⟨f, -, -, step⟩ := setMembers_field known
      rw [step]
      split_ifs
      · rfl
      · have sub' : seen ⊆ n :: more := List.Subset.trans sub (List.subset_cons_self n more)
        exact Option.bind_eq_none_iff.mpr fun d _ => h sub' d
    · rw [setMembers_other known, h sub]

theorem Refuses.append (h : schema.Refuses seen ms) (before : List (Option String × Json)) :
    schema.Refuses seen (before ++ ms) := by
  induction before with
  | nil => exact h
  | cons m before ih => exact ih.cons m

theorem refuses_nameless (h : (none, v) ∈ ms) : schema.Refuses seen ms := by
  obtain ⟨before, after, rfl⟩ := List.append_of_mem h
  exact Refuses.append (fun _ _ => rfl) before

/-- A value that the field does not take. -/
theorem refuses_value (h : (some n, v) ∈ ms) (known : n ∈ schema.names)
    (wrong : ∀ f ∈ schema, f.name = n → ∀ c, f.set v c = none) : schema.Refuses seen ms := by
  obtain ⟨before, after, rfl⟩ := List.append_of_mem h
  obtain ⟨f, hf, name, step⟩ := setMembers_field known
  exact Refuses.append (fun _ c => by simp [step, wrong f hf name c]) before

theorem refuses_seen (h : (some n, v) ∈ ms) (known : n ∈ schema.names) (set : n ∈ seen) :
    schema.Refuses seen ms := by
  obtain ⟨before, after, rfl⟩ := List.append_of_mem h
  obtain ⟨f, -, -, step⟩ := setMembers_field known
  exact Refuses.append (fun sub c => by simp [step, sub set]) before

theorem refuses_twice (h : Twice n ms) (known : n ∈ schema.names) : schema.Refuses seen ms := by
  obtain ⟨v, w, h⟩ := h
  obtain ⟨before, after, rfl, hv, hw⟩ := List.cons_sublist_iff.mp h
  obtain ⟨first, between, rfl⟩ := List.append_of_mem hv
  obtain ⟨f, -, -, step⟩ := setMembers_field known
  rw [List.append_assoc]
  refine Refuses.append (fun {more} _ c => ?_) first
  have later : schema.Refuses (n :: more) (between ++ after) :=
    refuses_seen (List.mem_append_right _ (List.singleton_sublist.mp hw)) known (by simp)
  rw [List.cons_append, step]
  split_ifs
  · rfl
  · exact Option.bind_eq_none_iff.mpr fun d _ => later (List.Subset.refl _) d

end Schema

/-! ## Settings -/

theorem word64?_toNat (n : UInt64) : word64? (.number (some n.toNat)) = some n := by
  simp [word64?, n.toNat_lt, UInt64.size]

theorem word32?_toNat (n : UInt32) : word32? (.number (some n.toNat)) = some n := by
  simp [word32?, n.toNat_lt, UInt32.size]

namespace SessionConfig

/-- The fields of the settings of a session. -/
def fieldNames : List String :=
  ["fragment_size", "start_timeout_ms", "start_attempts", "write_timeout_ms", "write_backoff_ms",
   "pacing_ms", "pause_poll_ms", "fail_on_device_error"]

theorem names_schema : schema.names = fieldNames := rfl

/-- The fields with their values. -/
def values (c : SessionConfig) : List (String × Json) :=
  [("fragment_size", .number (some c.fragmentSize.toNat)),
   ("start_timeout_ms", .number (some c.startTimeout.toNat)),
   ("start_attempts", .number (some c.startAttempts.toNat)),
   ("write_timeout_ms", .number (some c.writeTimeout.toNat)),
   ("write_backoff_ms", .number (some c.writeBackoff.toNat)),
   ("pacing_ms", .number (some c.pacing.toNat)),
   ("pause_poll_ms", .number (some c.pausePoll.toNat)),
   ("fail_on_device_error", .bool c.failOnDeviceError)]

/-- The members of an object give the fields `chosen` of these settings. -/
def GivenBy (c : SessionConfig) (chosen : List String) (ms : List (Option String × Json)) : Prop :=
  Gives fieldNames (fun n v => (n, v) ∈ c.values) chosen ms

/-- The defaults, but for the chosen fields. -/
def overridden (c : SessionConfig) (chosen : List String) : SessionConfig where
  fragmentSize := if "fragment_size" ∈ chosen then c.fragmentSize else default.fragmentSize
  startTimeout := if "start_timeout_ms" ∈ chosen then c.startTimeout else default.startTimeout
  startAttempts := if "start_attempts" ∈ chosen then c.startAttempts else default.startAttempts
  writeTimeout := if "write_timeout_ms" ∈ chosen then c.writeTimeout else default.writeTimeout
  writeBackoff := if "write_backoff_ms" ∈ chosen then c.writeBackoff else default.writeBackoff
  pacing := if "pacing_ms" ∈ chosen then c.pacing else default.pacing
  pausePoll := if "pause_poll_ms" ∈ chosen then c.pausePoll else default.pausePoll
  failOnDeviceError :=
    if "fail_on_device_error" ∈ chosen then c.failOnDeviceError else default.failOnDeviceError

theorem overridden_congr (c : SessionConfig) {a b : List String} (h : ∀ n, n ∈ a ↔ n ∈ b) :
    c.overridden a = c.overridden b := by
  simp [overridden, h]

theorem overridden_nil (c : SessionConfig) : c.overridden [] = default := by
  simp [overridden]

theorem overridden_fieldNames (c : SessionConfig) : c.overridden fieldNames = c := by
  simp [overridden, fieldNames]

theorem set_value (c : SessionConfig) : ∀ f ∈ schema, ∀ seen v, (f.name, v) ∈ c.values →
    f.set v (c.overridden seen) = some (c.overridden (f.name :: seen)) := by
  intro f hf seen v hv
  simp only [schema, List.mem_cons, List.not_mem_nil, or_false] at hf
  rcases hf with rfl | rfl | rfl | rfl | rfl | rfl | rfl | rfl <;>
    simp [values] at hv <;> subst hv <;>
    simp [word64?_toNat, word32?_toNat, bool?, overridden]

end SessionConfig

namespace UpdateConfig

/-- The fields of the settings of an update. -/
def fieldNames : List String :=
  ["device_name", "scan_secs", "connect_attempts", "reboot_wait_secs", "session"]

theorem names_schema : schema.names = fieldNames := rfl

/-- The fields with their values, but for the session. -/
def values (c : UpdateConfig) : List (String × Json) :=
  [("device_name", .string (some c.deviceName)),
   ("scan_secs", .number (some c.scanSecs.toNat)),
   ("connect_attempts", .number (some c.connectAttempts.toNat)),
   ("reboot_wait_secs", .number (some c.rebootWaitSecs.toNat))]

/-- A value that gives a field of `c`.  The session is an object that gives its
    own fields `inner`. -/
def Fits (c : UpdateConfig) (inner : List String) (n : String) (v : Json) : Prop :=
  (n, v) ∈ c.values ∨ n = "session" ∧ ∃ ms, v = .object ms ∧ c.session.GivenBy inner ms

/-- The members of an object give the fields `chosen` of these settings, and
    the fields `inner` of their session. -/
def GivenBy (c : UpdateConfig) (chosen inner : List String) (ms : List (Option String × Json)) :
    Prop :=
  Gives fieldNames (c.Fits inner) chosen ms

/-- The defaults, but for the chosen fields, and for the fields `inner` of the
    session if that is chosen. -/
def overridden (c : UpdateConfig) (chosen inner : List String) : UpdateConfig where
  deviceName := if "device_name" ∈ chosen then c.deviceName else default.deviceName
  scanSecs := if "scan_secs" ∈ chosen then c.scanSecs else default.scanSecs
  connectAttempts :=
    if "connect_attempts" ∈ chosen then c.connectAttempts else default.connectAttempts
  rebootWaitSecs := if "reboot_wait_secs" ∈ chosen then c.rebootWaitSecs else default.rebootWaitSecs
  session := if "session" ∈ chosen then c.session.overridden inner else default.session

theorem overridden_congr (c : UpdateConfig) (inner : List String) {a b : List String}
    (h : ∀ n, n ∈ a ↔ n ∈ b) : c.overridden a inner = c.overridden b inner := by
  simp [overridden, h]

theorem overridden_nil (c : UpdateConfig) (inner : List String) :
    c.overridden [] inner = default := by
  simp [overridden, default]

theorem overridden_fieldNames (c : UpdateConfig) :
    c.overridden fieldNames SessionConfig.fieldNames = c := by
  simp [overridden, fieldNames, SessionConfig.overridden_fieldNames]

end UpdateConfig

theorem SessionConfig.readRecord_of_givenBy (c : SessionConfig) {chosen : List String}
    {ms : List (Option String × Json)} (h : c.GivenBy chosen ms) :
    schema.readRecord default (.object ms) = some (c.overridden chosen) := by
  have read : schema.readRecord (c.overridden []) (.object ms) = some (c.overridden chosen) :=
    Schema.readRecord_of_gives c.overridden c.overridden_congr c.set_value h
  rwa [overridden_nil] at read

namespace UpdateConfig

theorem set_value (c : UpdateConfig) (inner : List String) : ∀ f ∈ schema, ∀ seen v,
    c.Fits inner f.name v →
      f.set v (c.overridden seen inner) = some (c.overridden (f.name :: seen) inner) := by
  intro f hf seen v hv
  simp only [schema, List.mem_cons, List.not_mem_nil, or_false] at hf
  rcases hf with rfl | rfl | rfl | rfl | rfl <;> simp [Fits, values] at hv
  case inr.inr.inr.inr =>
    obtain ⟨ms, rfl, hms⟩ := hv
    simp [c.session.readRecord_of_givenBy hms, overridden]
  all_goals
    subst hv
    simp [word64?_toNat, word32?_toNat, text?, overridden]

theorem readRecord_of_givenBy (c : UpdateConfig) {chosen inner : List String}
    {ms : List (Option String × Json)} (h : c.GivenBy chosen inner ms) :
    schema.readRecord default (.object ms) = some (c.overridden chosen inner) := by
  have read : schema.readRecord (c.overridden [] inner) (.object ms) =
      some (c.overridden chosen inner) :=
    Schema.readRecord_of_gives (c.overridden · inner) (c.overridden_congr inner)
      (c.set_value inner) h
  rwa [overridden_nil] at read

end UpdateConfig

end AirUpdate
