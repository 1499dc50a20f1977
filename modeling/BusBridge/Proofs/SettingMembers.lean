import Mathlib.Data.List.Induction
import BusBridge.Proofs.JsonReading
import BusBridge.Proofs.LayeredSettings
import BusBridge.Settings.Document

/-!
# Settings among the members of an object

Settings that were written as a JSON object are read back from it.  It does not matter in which
order the members stand, or what else there is in the object, only that no setting is given
twice.
-/

namespace BusBridge

namespace Settings

/-- The member of an object that gives one setting. -/
def isSetting (member : String × Json) : Bool :=
  Key.all.any fun key => member.1 = key.name

/-- What the members of this name give when they are read: one value, or there is none of them. -/
def Told {α : Type} (name : String) (read? : Json → Option α) (members : List (String × Json))
    (given? : Option α) : Prop :=
  (members.filter fun member => member.1 = name).map (fun member => read? member.2) =
    given?.toList.map some

/-- What one more member does to a setting: under its name it gives the setting, which must not
have been given before, and under another name it does nothing. -/
def Takes {α : Type} (name : String) (read? : Json → Option α) (member : String × Json)
    (before after : Option α) : Prop :=
  if member.1 = name then before = none ∧ after.isSome ∧ read? member.2 = after
  else before = after

namespace Partial

/-- A setting as text, if it is given. -/
def text? (given : Partial) : Key → Option String
  | .bus => given.bus?.map BusKind.name
  | .logFilter => given.logFilter?
  | .logFormat => given.logFormat?.map LogFormat.name

/-- The settings that are given, each as one member. -/
def toMembers (given : Partial) : List (String × Json) :=
  Key.all.filterMap fun key => (given.text? key).map fun text => (key.name, .string text)

/-- The members of an object give these settings, each of them once, and no others. -/
structure ToldBy (given : Partial) (members : List (String × Json)) : Prop where
  bus : Told "bus" readBus? members given.bus?
  logFilter : Told "log_filter" readLogFilter? members given.logFilter?
  logFormat : Told "log_format" readLogFormat? members given.logFormat?

end Partial

section Telling

variable {α : Type} {name : String} {read? : Json → Option α} {given? : Option α}
  {members : List (String × Json)} {member : String × Json}

theorem told_nil_iff : Told name read? [] given? ↔ given? = none := by
  cases given? <;> simp [Told]

/-- The last member is taken in after what the others tell. -/
theorem told_append_iff :
    Told name read? (members ++ [member]) given? ↔
      ∃ before, Told name read? members before ∧ Takes name read? member before given? := by
  by_cases same : member.1 = name
  · simp only [Told, Takes, List.filter_append, List.map_append, same, decide_true, if_true,
      List.filter_cons_of_pos, List.filter_nil, List.map_cons, List.map_nil]
    cases given? with
    | none => simp
    | some value =>
        rw [Option.toList_some, List.map_singleton]
        constructor
        · intro single
          obtain ⟨earlier, last⟩ := List.append_inj' (single.trans (List.nil_append _).symm) rfl
          exact ⟨none, earlier, rfl, rfl, List.singleton_inj.mp last⟩
        · rintro ⟨_, earlier, rfl, -, gives⟩
          rw [earlier, gives]
          rfl
  · simp [Told, Takes, List.filter_append, same]

/-- What is told once is told by no two members. -/
theorem Told.not_twice (told : Told name read? members given?) (first second : Json) :
    ¬[(name, first), (name, second)].Sublist members := by
  intro twice
  have few := congrArg List.length told
  have many := (twice.filter fun member => member.1 = name).length_le
  simp only [List.length_map, decide_true, List.filter_cons_of_pos, List.filter_nil,
    List.length_cons, List.length_nil] at few many
  cases given? with
  | none => simp only [Option.toList_none, List.length_nil] at few; omega
  | some value => simp only [Option.toList_some, List.length_singleton] at few; omega

theorem told_of_perm {write : α → String}
    (inverse : ∀ value, read? (.string (write value)) = some value)
    (same : (members.filter fun member => member.1 = name).Perm
      ((given?.map write).toList.map fun text => (name, .string text))) :
    Told name read? members given? := by
  cases given? with
  | none => rw [Told, same.eq_nil]; rfl
  | some value =>
      rw [Told, List.perm_singleton.mp same]
      exact congrArg (fun value? => [value?]) (inverse value)

end Telling

namespace Partial

variable {given given' : Partial} {members : List (String × Json)} {member : String × Json}

/-- A member is taken in if it does to each of the settings what it should do. -/
theorem addMember_eq_some_iff :
    given.addMember member = some given' ↔
      Takes "bus" readBus? member given.bus? given'.bus? ∧
        Takes "log_filter" readLogFilter? member given.logFilter? given'.logFilter? ∧
        Takes "log_format" readLogFormat? member given.logFormat? given'.logFormat? := by
  obtain ⟨bus?, logFilter?, logFormat?⟩ := given
  obtain ⟨bus'?, logFilter'?, logFormat'?⟩ := given'
  unfold addMember Takes
  by_cases onBus : member.1 = "bus"
  · simp only [onBus, if_true, String.reduceEq, if_false]
    cases bus? with
    | none => cases readBus? member.2 <;> cases bus'? <;> simp
    | some bus => simp
  · by_cases onFilter : member.1 = "log_filter"
    · simp only [onFilter, if_true, String.reduceEq, if_false]
      cases logFilter? with
      | none => cases readLogFilter? member.2 <;> cases logFilter'? <;> simp
      | some filter => simp
    · by_cases onFormat : member.1 = "log_format"
      · simp only [onFormat, if_true, String.reduceEq, if_false]
        cases logFormat? with
        | none => cases readLogFormat? member.2 <;> cases logFormat'? <;> simp
        | some format => simp
      · simp only [onBus, onFilter, onFormat, if_false, Option.some.injEq, mk.injEq]

/-- One more member is taken in by what the members before it give. -/
theorem toldBy_append_iff :
    given'.ToldBy (members ++ [member]) ↔
      ∃ given : Partial, given.ToldBy members ∧ given.addMember member = some given' := by
  constructor
  · rintro ⟨bus, filter, format⟩
    obtain ⟨bus?, busBefore, busTaken⟩ := told_append_iff.mp bus
    obtain ⟨filter?, filterBefore, filterTaken⟩ := told_append_iff.mp filter
    obtain ⟨format?, formatBefore, formatTaken⟩ := told_append_iff.mp format
    exact ⟨⟨bus?, filter?, format?⟩, ⟨busBefore, filterBefore, formatBefore⟩,
      addMember_eq_some_iff.mpr ⟨busTaken, filterTaken, formatTaken⟩⟩
  · rintro ⟨given, ⟨bus, filter, format⟩, taken⟩
    obtain ⟨busTaken, filterTaken, formatTaken⟩ := addMember_eq_some_iff.mp taken
    exact ⟨told_append_iff.mpr ⟨_, bus, busTaken⟩, told_append_iff.mpr ⟨_, filter, filterTaken⟩,
      told_append_iff.mpr ⟨_, format, formatTaken⟩⟩

theorem toldBy_nil_iff : given.ToldBy [] ↔ given = .empty := by
  obtain ⟨bus?, logFilter?, logFormat?⟩ := given
  simp only [empty, mk.injEq]
  constructor
  · rintro ⟨bus, filter, format⟩
    exact ⟨told_nil_iff.mp bus, told_nil_iff.mp filter, told_nil_iff.mp format⟩
  · rintro ⟨bus, filter, format⟩
    exact ⟨told_nil_iff.mpr bus, told_nil_iff.mpr filter, told_nil_iff.mpr format⟩

/-- The members one after the other give what they tell. -/
theorem foldlM_addMember_eq_some_iff :
    members.foldlM addMember .empty = some given ↔ given.ToldBy members := by
  induction members using List.reverseRecOn generalizing given with
  | nil => rw [toldBy_nil_iff, eq_comm, List.foldlM_nil]; exact Option.some_inj
  | append_singleton members member ih =>
      simp only [toldBy_append_iff, List.foldlM_append, List.foldlM_cons, List.foldlM_nil,
        bind_pure, Option.bind_eq_bind, Option.bind_eq_some_iff, ih]

theorem filter_toMembers (key : Key) :
    (given.toMembers.filter fun member => member.1 = key.name) =
      (given.text? key).toList.map fun text => (key.name, .string text) := by
  obtain ⟨bus?, logFilter?, logFormat?⟩ := given
  cases key <;> cases bus? <;> cases logFilter? <;> cases logFormat? <;> rfl

/-- The members under the names of the settings give the settings, in whatever order they are. -/
theorem toldBy_of_perm (same : (members.filter isSetting).Perm given.toMembers) :
    given.ToldBy members := by
  have named (key : Key) : (members.filter fun member => member.1 = key.name).Perm
      ((given.text? key).toList.map fun text => (key.name, .string text)) := by
    have narrowed := same.filter fun member => member.1 = key.name
    rw [filter_toMembers, List.filter_filter] at narrowed
    have setting {member : String × Json} (ofKey : member.1 = key.name) : isSetting member :=
      List.any_eq_true.mpr ⟨key, key.mem_all, decide_eq_true ofKey⟩
    refine .trans (.of_eq (List.filter_congr fun member _ => ?_)) narrowed
    by_cases ofKey : member.1 = key.name
    · simp [ofKey, setting ofKey]
    · simp [ofKey]
  exact ⟨told_of_perm (fun bus => BusKind.choices.ofName?_eq_some_iff.mpr rfl) (named .bus),
    told_of_perm (fun filter => rfl) (by rw [Option.map_id']; exact named .logFilter),
    told_of_perm (fun format => LogFormat.choices.ofName?_eq_some_iff.mpr rfl) (named .logFormat)⟩

end Partial

section Texts

variable {text : String} {members : List (String × Json)} {settings : Settings}

theorem read?_eq_some_iff (object : Json.read? text = some (.object members)) :
    read? text = some settings ↔
      ∃ given : Partial, given.ToldBy members ∧ given.complete = settings := by
  rw [read?, object, Option.bind_some, ofJson?, Option.map_eq_some_iff]
  exact exists_congr fun given => and_congr_left' Partial.foldlM_addMember_eq_some_iff

theorem read?_of_perm (object : Json.read? text = some (.object members)) {given : Partial}
    (same : (members.filter isSetting).Perm given.toMembers) :
    read? text = some given.complete :=
  (read?_eq_some_iff object).mpr ⟨given, Partial.toldBy_of_perm same, rfl⟩

theorem read?_of_twice (object : Json.read? text = some (.object members)) {key : Key}
    {first second : Json} (twice : [(key.name, first), (key.name, second)].Sublist members) :
    read? text = none := by
  refine Option.eq_none_iff_forall_ne_some.mpr fun settings reads => ?_
  obtain ⟨given, ⟨bus, filter, format⟩, -⟩ := (read?_eq_some_iff object).mp reads
  cases key
  · exact bus.not_twice first second twice
  · exact filter.not_twice first second twice
  · exact format.not_twice first second twice

theorem read?_toJson (settings : Settings) : read? settings.toJson.compact = some settings := by
  have plain : settings.toJson.Plain := .object fun member listed => by
    obtain rfl | rfl | rfl := by simpa using listed
    all_goals exact .string _
  let given : Partial := ⟨some settings.bus, some settings.logFilter, some settings.logFormat⟩
  have same : (_ : List (String × Json)).Perm given.toMembers := .refl _
  exact read?_of_perm (Json.read?_compact plain) same

end Texts

/-- Settings are read back from their own JSON.  From any text of an object, settings that stand
among its members in any order are read as they are given, with the defaults for those that are
missing, whatever members of other names there are.  A setting that stands there twice is never
read, and what is read is always what the members of its name give. -/
theorem settings_survive_json :
    (∀ settings : Settings, read? settings.toJson.compact = some settings) ∧
      ∀ text members, Json.read? text = some (.object members) →
        (∀ given : Partial, (members.filter isSetting).Perm given.toMembers →
          read? text = some given.complete) ∧
        (∀ (key : Key) (first second : Json),
          [(key.name, first), (key.name, second)].Sublist members → read? text = none) ∧
        ∀ settings : Settings, read? text = some settings ↔
          ∃ given : Partial, given.ToldBy members ∧ given.complete = settings :=
  ⟨read?_toJson, fun _ _ object =>
    ⟨fun _ => read?_of_perm object, fun _ _ _ => read?_of_twice object,
      fun _ => read?_eq_some_iff object⟩⟩

/-- Two settings stand in another order around a member of another name, and one stands there
twice. -/
theorem members_between_others :
    let mixed := [("log_format", .string "json"), ("x", .array [.object [("bus", .null)]]),
      ("bus", .string "session")]
    let repeated := [("bus", .string "session"), ("x", .null), ("bus", .string "session")]
    read? (Json.object mixed).compact = some ⟨.session, "warn", .json⟩ ∧
      read? (Json.object repeated).compact = none := by
  intro mixed repeated
  have mixedPlain : (Json.object mixed).Plain := .object fun member listed => by
    obtain rfl | rfl | rfl := by simpa [mixed] using listed
    · exact .string _
    · refine .array fun item listed => ?_
      obtain rfl := List.mem_singleton.mp listed
      exact .object fun member listed => List.mem_singleton.mp listed ▸ .null
    · exact .string _
  have repeatedPlain : (Json.object repeated).Plain := .object fun member listed => by
    obtain rfl | rfl | rfl : member = _ ∨ member = _ ∨ member = _ := by
      simpa only [repeated, List.mem_cons, List.not_mem_nil, or_false] using listed
    · exact .string _
    · exact .null
    · exact .string _
  have twice : [("bus", .string "session"), ("bus", .string "session")].Sublist repeated :=
    .cons_cons _ (.cons _ (.refl _))
  have given := (settings_survive_json.2 _ _ (Json.read?_compact mixedPlain)).1
    ⟨some .session, none, some .json⟩ (.swap _ _ [])
  have rejected := (settings_survive_json.2 _ _ (Json.read?_compact repeatedPlain)).2.1
    .bus _ _ twice
  exact ⟨given, rejected⟩

end Settings

end BusBridge
