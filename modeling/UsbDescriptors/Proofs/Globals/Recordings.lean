import UsbDescriptors.Proofs.OrderedMaps
import UsbDescriptors.Proofs.Runs.Steps
import Mathlib.Data.List.Perm.Basic

/-!
# Recordings of global defines

Interfaces record what they want one after the other, and a set of defines keeps the first
recording under every name. `Recorded` says what a successful sequence leaves, and `Conflict` which
two recordings an unsuccessful one fails for. A sequence succeeds exactly if its recordings agree,
which has nothing to do with their order.
-/

namespace UsbDescriptors

/-- What an interface wants of a global define. -/
structure Recording where
  name : String
  value : String
  /-- The tag of the interface. -/
  tag : String
deriving DecidableEq, Repr

namespace Recording

/-- The define that the first recording under a name makes. -/
def define (recording : Recording) : GlobalDefine where
  value := recording.value
  tag := recording.tag

/-- The first recording of a list under a name. -/
def first? (recordings : List Recording) (name : String) : Option Recording :=
  recordings.find? fun recording => recording.name = name

/-- Recordings under one name have one value. -/
def Agree (recordings : List Recording) : Prop :=
  ∀ first ∈ recordings, ∀ second ∈ recordings, first.name = second.name →
    first.value = second.value

/-- Two recordings of a list disagree about a name: the first one under it, and the first one
behind that with another value. -/
structure Conflict (recordings : List Recording) (first second : Recording) : Prop where
  name : first.name = second.name
  value : first.value ≠ second.value
  places : ∃ before between after,
    recordings = before ++ first :: between ++ second :: after ∧
      (∀ earlier ∈ before, earlier.name ≠ first.name) ∧
      ∀ later ∈ between, later.name = first.name → later.value = first.value

theorem Conflict.not_agree {recordings : List Recording} {first second : Recording}
    (conflict : Conflict recordings first second) : ¬ Agree recordings := by
  intro agree
  rcases conflict.places with ⟨before, between, after, rfl, -, -⟩
  exact conflict.value (agree first (by simp) second (by simp) conflict.name)

theorem Agree.perm {recordings others : List Recording} (agree : Agree recordings)
    (order : recordings.Perm others) : Agree others :=
  fun first firstMem second secondMem =>
    agree first (order.mem_iff.mpr firstMem) second (order.mem_iff.mpr secondMem)

theorem name_of_first? {recordings : List Recording} {name : String} {first : Recording}
    (found : first? recordings name = some first) : first.name = name := by
  simpa using List.find?_some found

end Recording

open Recording

namespace GlobalDefines

variable {defines after : GlobalDefines} {earlier recordings others : List Recording}
  {recording : Recording}

/-- Records one after the other until a recording fails. -/
def recordAll (defines : GlobalDefines) : List Recording → Except Fault GlobalDefines
  | [] => .ok defines
  | recording :: rest => do
      let defines ← defines.record recording.name recording.value recording.tag
      recordAll defines rest

theorem recordAll_append :
    defines.recordAll (recordings ++ others) =
      defines.recordAll recordings >>= fun middle => middle.recordAll others := by
  induction recordings generalizing defines with
  | nil => rfl
  | cons recording rest ih =>
      simp only [List.cons_append, recordAll]
      cases defines.record recording.name recording.value recording.tag with
      | error fault => rfl
      | ok middle => exact ih

/-- The names and values of defines. -/
def pairs (defines : GlobalDefines) : List (String × String) :=
  defines.map fun define => (define.1, define.2.value)

/-- What a sequence of successful recordings leaves: the first recording under every name, in the
order of these, and it has the value of every other one under its name. -/
structure Recorded (defines : GlobalDefines) (recordings : List Recording) : Prop where
  names : defines.keys = (recordings.map Recording.name).eraseDups
  distinct : defines.keys.Nodup
  firsts : ∀ name, defines.get? name = (first? recordings name).map Recording.define
  values : ∀ recording ∈ recordings, defines.value? recording.name = some recording.value

theorem recorded_empty : empty.Recorded [] where
  names := rfl
  distinct := List.nodup_nil
  firsts := fun _ => rfl
  values := by simp

namespace Recorded

theorem agree (recorded : defines.Recorded recordings) : Agree recordings := by
  intro first firstMem second secondMem same
  have value := recorded.values second secondMem
  rw [← same, recorded.values first firstMem] at value
  exact Option.some.inj value

theorem mem_keys_iff (recorded : defines.Recorded recordings) {name : String} :
    name ∈ defines.keys ↔ name ∈ recordings.map Recording.name := by
  rw [recorded.names, List.mem_eraseDups]

/-- A recording under a new name goes to the end. -/
theorem append_of_absent (recorded : defines.Recorded earlier) (absent : recording.name ∉ defines.keys) :
    GlobalDefines.Recorded (defines ++ [(recording.name, recording.define)])
      (earlier ++ [recording]) := by
  have fresh : recording.name ∉ earlier.map Recording.name := fun mem =>
    absent (recorded.mem_keys_iff.mpr mem)
  have keys : OrderedMap.keys (defines ++ [(recording.name, recording.define)]) =
      defines.keys ++ [recording.name] := by simp [OrderedMap.keys]
  have found : ∀ name, OrderedMap.get? (defines ++ [(recording.name, recording.define)]) name =
      (first? (earlier ++ [recording]) name).map Recording.define := by
    intro name
    rw [OrderedMap.get?_append, recorded.firsts, first?, first?, List.find?_append]
    cases earlier.find? fun other => other.name = name with
    | some first => rfl
    | none => by_cases same : recording.name = name <;> simp [same]
  refine ⟨?_, ?_, found, ?_⟩
  · rw [keys, recorded.names, List.map_append, List.map_singleton,
      OrderedMap.eraseDups_concat_of_not_mem fresh]
  · rw [← OrderedMap.insert_of_not_mem absent]
    exact OrderedMap.nodup_keys_insert recorded.distinct
  · intro other mem
    rw [value?, OrderedMap.get?_append]
    rcases List.mem_append.mp mem with before | own
    · have value := recorded.values other before
      rcases Option.map_eq_some_iff.mp value with ⟨define, stored, same⟩
      simp [stored, same]
    · rw [List.mem_singleton.mp own, OrderedMap.get?_of_not_mem absent]
      simp [Recording.define]

/-- A recording that agrees with the first one under its name changes nothing. -/
theorem append_of_known (recorded : defines.Recorded earlier)
    (known : defines.value? recording.name = some recording.value) :
    defines.Recorded (earlier ++ [recording]) := by
  rcases Option.map_eq_some_iff.mp known with ⟨define, stored, -⟩
  have present : recording.name ∈ earlier.map Recording.name :=
    recorded.mem_keys_iff.mp (List.mem_map.mpr ⟨_, OrderedMap.mem_of_get?_eq_some stored, rfl⟩)
  refine ⟨?_, recorded.distinct, ?_, ?_⟩
  · rw [recorded.names, List.map_append, List.map_singleton,
      OrderedMap.eraseDups_concat_of_mem present]
  · intro name
    rw [recorded.firsts, first?, first?, List.find?_append]
    cases missing : earlier.find? fun other => other.name = name with
    | some first => rfl
    | none =>
        have other : recording.name ≠ name := by
          rcases List.mem_map.mp present with ⟨own, mem, same⟩
          intro equal
          simpa [same, equal] using List.find?_eq_none.mp missing own mem
        simp [other]
  · intro other mem
    rcases List.mem_append.mp mem with before | own
    · exact recorded.values other before
    · rw [List.mem_singleton.mp own]
      exact known

end Recorded

/-- One more recording after a successful sequence either agrees with it, or it is the second one of
a conflict. -/
theorem Recorded.record_cases (recorded : defines.Recorded earlier) (recording : Recording) :
    (∃ after, defines.record recording.name recording.value recording.tag = .ok after ∧
      after.Recorded (earlier ++ [recording])) ∨
    ∃ first, defines.record recording.name recording.value recording.tag =
        .error (.globalConflict recording.name first.tag first.value recording.tag
          recording.value) ∧
      ∀ rest, Conflict (earlier ++ recording :: rest) first recording := by
  unfold GlobalDefines.record
  cases stored : defines.get? recording.name with
  | none =>
      have absent := OrderedMap.get?_eq_none_iff.mp stored
      exact Or.inl ⟨_, rfl, recorded.append_of_absent absent⟩
  | some define =>
      by_cases same : define.value = recording.value
      · have known : defines.value? recording.name = some recording.value := by
          rw [value?, stored, Option.map_some, same]
        exact Or.inl ⟨defines, if_pos same, recorded.append_of_known known⟩
      · rw [recorded.firsts] at stored
        rcases Option.map_eq_some_iff.mp stored with ⟨first, found, rfl⟩
        refine Or.inr ⟨first, if_neg same, fun rest => ⟨name_of_first? found, same, ?_⟩⟩
        rcases List.find?_eq_some_iff_append.mp found with ⟨-, before, between, split, others⟩
        refine ⟨before, between, rest, by simp [split], ?_, ?_⟩
        · intro other mem equal
          have different := others other mem
          simp [equal, name_of_first? found] at different
        · intro later mem equal
          have firstMem : first ∈ earlier := by simp [split]
          have laterMem : later ∈ earlier := by simp [split, mem]
          exact recorded.agree later laterMem first firstMem equal

/-- A sequence of recordings leaves the first ones, or it fails for the first conflict. -/
theorem Recorded.recordAll_cases (recorded : defines.Recorded earlier) (recordings : List Recording) :
    (∃ after, defines.recordAll recordings = .ok after ∧
      after.Recorded (earlier ++ recordings)) ∨
    ∃ first second, defines.recordAll recordings =
        .error (.globalConflict second.name first.tag first.value second.tag second.value) ∧
      Conflict (earlier ++ recordings) first second := by
  induction recordings generalizing defines earlier with
  | nil => exact Or.inl ⟨defines, rfl, by simpa using recorded⟩
  | cons recording rest ih =>
      rcases recorded.record_cases recording with
        ⟨middle, stored, more⟩ | ⟨first, failed, conflict⟩
      · have next := ih more
        have step : defines.recordAll (recording :: rest) = middle.recordAll rest := by
          simp only [GlobalDefines.recordAll, stored]
          rfl
        rw [List.append_assoc, List.singleton_append] at next
        rw [step]
        exact next
      · have stop : defines.recordAll (recording :: rest) = .error (.globalConflict recording.name
            first.tag first.value recording.tag recording.value) := by
          simp only [GlobalDefines.recordAll, failed]
          rfl
        exact Or.inr ⟨first, recording, stop, conflict rest⟩

theorem recorded_of_recordAll (all : empty.recordAll recordings = .ok after) :
    after.Recorded recordings := by
  rcases recorded_empty.recordAll_cases recordings with
    ⟨other, same, recorded⟩ | ⟨first, second, failed, -⟩
  · rw [all] at same
    cases same
    exact recorded
  · rw [all] at failed
    cases failed

/-- A sequence of recordings that fails does so for two of them, and it names the first one under a
name and the first one behind it with another value. -/
theorem conflict_of_recordAll {name firstTag firstValue secondTag secondValue : String}
    (failed : empty.recordAll recordings =
      .error (.globalConflict name firstTag firstValue secondTag secondValue)) :
    Conflict recordings ⟨name, firstValue, firstTag⟩ ⟨name, secondValue, secondTag⟩ := by
  rcases recorded_empty.recordAll_cases recordings with
    ⟨other, same, -⟩ | ⟨first, second, own, conflict⟩
  · rw [failed] at same
    cases same
  · rw [failed] at own
    rcases first with ⟨firstName, _, _⟩
    have same : firstName = second.name := conflict.name
    cases own
    rw [same] at conflict
    exact conflict

/-- Whether a sequence of recordings succeeds depends on their agreement only. -/
theorem recordAll_isOk_iff : (empty.recordAll recordings).isOk = true ↔ Agree recordings := by
  rcases recorded_empty.recordAll_cases recordings with
    ⟨after, all, recorded⟩ | ⟨first, second, failed, conflict⟩
  · rw [all]
    exact ⟨fun _ => recorded.agree, fun _ => rfl⟩
  · rw [failed]
    constructor
    · intro success
      cases success
    · intro agree
      exact absurd agree conflict.not_agree

theorem Recorded.mem_pairs_iff (recorded : defines.Recorded recordings)
    {pair : String × String} :
    pair ∈ defines.pairs ↔ ∃ recording ∈ recordings, (recording.name, recording.value) = pair := by
  constructor
  · intro mem
    rcases List.mem_map.mp mem with ⟨⟨name, define⟩, stored, rfl⟩
    have found := OrderedMap.get?_eq_some_of_mem recorded.distinct stored
    rw [recorded.firsts] at found
    rcases Option.map_eq_some_iff.mp found with ⟨first, first?, rfl⟩
    exact ⟨first, List.mem_of_find?_eq_some first?, by rw [name_of_first? first?]; rfl⟩
  · rintro ⟨recording, mem, rfl⟩
    rcases Option.map_eq_some_iff.mp (recorded.values recording mem) with ⟨define, found, same⟩
    exact List.mem_map.mpr ⟨_, OrderedMap.mem_of_get?_eq_some found, by rw [same]⟩

theorem map_fst_pairs : defines.pairs.map Prod.fst = defines.keys := by
  simp [pairs, OrderedMap.keys, Function.comp_def]

theorem Recorded.nodup_pairs (recorded : defines.Recorded recordings) : defines.pairs.Nodup := by
  apply List.Nodup.of_map Prod.fst
  rw [map_fst_pairs]
  exact recorded.distinct

/-- The order of recordings decides neither whether they succeed nor which names and values they
leave. -/
theorem recordAll_perm (order : recordings.Perm others) :
    ((empty.recordAll recordings).isOk = (empty.recordAll others).isOk) ∧
      ∀ first second, empty.recordAll recordings = .ok first → empty.recordAll others = .ok second →
        first.pairs.Perm second.pairs := by
  constructor
  · rw [Bool.eq_iff_iff, recordAll_isOk_iff, recordAll_isOk_iff]
    exact ⟨fun agree => agree.perm order, fun agree => agree.perm order.symm⟩
  · intro first second firstRun secondRun
    have firstRecorded := recorded_of_recordAll firstRun
    have secondRecorded := recorded_of_recordAll secondRun
    rw [List.perm_ext_iff_of_nodup firstRecorded.nodup_pairs secondRecorded.nodup_pairs]
    intro pair
    simp only [firstRecorded.mem_pairs_iff, secondRecorded.mem_pairs_iff, order.mem_iff]

end GlobalDefines

end UsbDescriptors
