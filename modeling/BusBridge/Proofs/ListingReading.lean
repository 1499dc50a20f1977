import BusBridge.Interface.Listing
import BusBridge.Output
import BusBridge.Text.Blank

/-!
# Reading a listing

The listing of an interface is read back from its text, if there are no blanks, commas and angle
brackets in the names and types.  Every line tells the name of one member and the types of its
entries.
-/

namespace BusBridge

/-- No blank, no comma and no angle bracket. -/
def Text.IsWord (text : String) : Prop :=
  ∀ character ∈ text.toList,
    isBlank character = false ∧ character ≠ ',' ∧ character ≠ '<' ∧ character ≠ '>'

instance : DecidablePred Text.IsWord := fun text =>
  List.decidableBAll (fun character : Char => Text.isBlank character = false ∧ character ≠ ',' ∧
    character ≠ '<' ∧ character ≠ '>') text.toList

namespace Parameter

/-- The name, if there is one, and the type are words. -/
def Worded (parameter : Parameter) : Prop :=
  (∀ name ∈ parameter.name, Text.IsWord name) ∧ Text.IsWord parameter.type

instance (parameter : Parameter) : Decidable parameter.Worded :=
  inferInstanceAs (Decidable (_ ∧ _))

end Parameter

/-- The name of a member and what its parameters say are words. -/
def WordedMember (name : String) (parameters : List Parameter) : Prop :=
  Text.IsWord name ∧ ∀ parameter ∈ parameters, parameter.Worded

instance (name : String) (parameters : List Parameter) : Decidable (WordedMember name parameters) :=
  inferInstanceAs (Decidable (_ ∧ _))

namespace Interface

/-- All names of members and of parameters and all types are words. -/
def Worded (interface : Interface) : Prop :=
  (∀ method ∈ interface.methods, WordedMember method.name method.parameters) ∧
    ∀ signal ∈ interface.signals, WordedMember signal.name signal.parameters

instance (interface : Interface) : Decidable interface.Worded :=
  inferInstanceAs (Decidable (_ ∧ _))

end Interface

section Words

variable {text : String} {reserved : Char}

theorem Text.IsWord.not_mem (word : IsWord text)
    (apart : isBlank reserved = true ∨ reserved ∈ [',', '<', '>']) : reserved ∉ text.toList := by
  intro member
  obtain ⟨visible, comma, opening, closing⟩ := word reserved member
  rcases apart with blank | separator
  · rw [visible] at blank
    cases blank
  · simp [comma, opening, closing] at separator

end Words

section Reading

variable {α : Type} [DecidableEq α] {stop : α} {items rest : List α}

/-- Reading goes up to the first item of the kind that ends it. -/
theorem takeWhile_ne_append (absent : stop ∉ items) (ends : ∀ first ∈ rest.head?, first = stop) :
    (items ++ rest).takeWhile (· ≠ stop) = items := by
  rw [List.takeWhile_append_of_pos fun item member =>
    decide_eq_true (ne_of_mem_of_not_mem member absent)]
  cases rest with
  | nil => rw [List.takeWhile_nil, List.append_nil]
  | cons first others =>
      obtain rfl := ends first rfl
      rw [List.takeWhile_cons_of_neg (by simp), List.append_nil]

theorem dropWhile_ne_append (absent : stop ∉ items) (ends : ∀ first ∈ rest.head?, first = stop) :
    (items ++ rest).dropWhile (· ≠ stop) = rest := by
  rw [List.dropWhile_append_of_pos fun item member =>
    decide_eq_true (ne_of_mem_of_not_mem member absent)]
  cases rest with
  | nil => rfl
  | cons first others =>
      obtain rfl := ends first rfl
      rw [List.dropWhile_cons_of_neg (by simp)]

/-- Lines that are all ended in the same way can be told apart again. -/
theorem splitOn_flatMap {lines : List (List α)} (absent : ∀ line ∈ lines, stop ∉ line) :
    (lines.flatMap (· ++ [stop])).splitOn stop = lines ++ [[]] := by
  induction lines with
  | nil => rfl
  | cons line others ih =>
      obtain ⟨here, later⟩ := List.forall_mem_cons.mp absent
      rw [List.flatMap_cons, List.append_assoc, List.singleton_append,
        List.splitOn_append_cons_self_of_not_mem here, ih later, List.cons_append]

end Reading

/-- What was written item by item is read item by item. -/
theorem mapM_map_eq_some {α β γ : Type} {write : β → α} {read? : α → Option γ} {told : β → γ}
    {written : List β} (reads : ∀ item ∈ written, read? (write item) = some (told item)) :
    (written.map write).mapM read? = some (written.map told) := by
  induction written with
  | nil => rfl
  | cons item others ih =>
      obtain ⟨here, later⟩ := List.forall_mem_cons.mp reads
      rw [List.map_cons, List.mapM_cons, here, ih later]
      rfl

namespace Output

/-- What stands behind the name of a member. -/
def entries (parameters : List Parameter) : List Char :=
  [','].intercalate (parameters.map fun parameter => ' ' :: (Output.parameter parameter).toList)

/-- The line of a member without its end. -/
def memberLine (name : String) (parameters : List Parameter) : List Char :=
  ' ' :: ' ' :: ' ' :: ' ' :: (name.toList ++ entries parameters)

section Lines

variable {parameter : Parameter} {parameters : List Parameter} {name : String} {reserved : Char}

theorem toList_parameter (parameter : Parameter) :
    ∃ rest, (Output.parameter parameter).toList =
        '<' :: (parameter.type.toList ++ '>' :: rest) ∧
      (parameter.name = none ∧ rest = [] ∨
        ∃ name, parameter.name = some name ∧ rest = ' ' :: name.toList) := by
  rw [Output.parameter]
  cases parameter.name with
  | none => exact ⟨[], by simp, .inl ⟨rfl, rfl⟩⟩
  | some name => exact ⟨' ' :: name.toList, by simp, .inr ⟨name, rfl, rfl⟩⟩

/-- Commas and line ends are not written within an entry. -/
theorem not_mem_parameter (worded : parameter.Worded)
    (separator : reserved = ',' ∨ reserved = '\n') :
    reserved ∉ ' ' :: (Output.parameter parameter).toList := by
  have apart : Text.isBlank reserved = true ∨ reserved ∈ [',', '<', '>'] := by
    rcases separator with rfl | rfl <;> decide
  have others : reserved ∉ [' ', '<', '>'] := by
    rcases separator with rfl | rfl <;> decide
  have type := worded.2.not_mem apart
  obtain ⟨rest, written, ⟨-, rfl⟩ | ⟨name, named, rfl⟩⟩ := toList_parameter parameter
  · simp_all
  · have word := (worded.1 name named).not_mem apart
    simp_all

theorem entries_cons_cons (first second : Parameter) (others : List Parameter) :
    entries (first :: second :: others) =
      ' ' :: (Output.parameter first).toList ++ [','] ++ entries (second :: others) :=
  List.intercalate_cons_cons

theorem toList_intercalate_parameter (first : Parameter) (others : List Parameter) :
    ' ' :: (String.intercalate ", " ((first :: others).map Output.parameter)).toList =
      entries (first :: others) := by
  rw [String.toList_intercalate]
  induction others generalizing first with
  | nil => rfl
  | cons second others ih =>
      rw [entries_cons_cons, ← ih]
      simp only [List.map_cons, List.intercalate_cons_cons]
      simp

theorem toList_member (name : String) (parameters : List Parameter) :
    (member name parameters).toList = memberLine name parameters ++ ['\n'] := by
  cases parameters with
  | nil => simp [member, memberLine, entries]
  | cons first others =>
      rw [memberLine, ← toList_intercalate_parameter]
      simp [member]

theorem not_mem_entries (worded : ∀ parameter ∈ parameters, parameter.Worded) :
    '\n' ∉ entries parameters := by
  induction parameters with
  | nil => exact List.not_mem_nil
  | cons first others ih =>
      obtain ⟨here, later⟩ := List.forall_mem_cons.mp worded
      have absent := not_mem_parameter here (.inr rfl)
      cases others with
      | nil => simpa [entries] using absent
      | cons second others =>
          rw [entries_cons_cons]
          simpa [ih later] using absent

theorem head?_entries : ∀ first ∈ (entries parameters).head?, first = ' ' := by
  cases parameters with
  | nil => nofun
  | cons first others =>
      rw [← toList_intercalate_parameter]
      rintro _ ⟨⟩
      rfl

end Lines

end Output

namespace ListedMember

variable {parameter : Parameter} {parameters : List Parameter} {name : String}

theorem readType?_parameter (worded : parameter.Worded) :
    readType? (' ' :: (Output.parameter parameter).toList) = some parameter.type := by
  have type : '>' ∉ parameter.type.toList := worded.2.not_mem (by decide)
  obtain ⟨rest, written, named⟩ := Output.toList_parameter parameter
  rw [written, readType?, takeWhile_ne_append type (by simp), dropWhile_ne_append type (by simp),
    String.ofList_toList]
  obtain ⟨-, rfl⟩ | ⟨name, -, rfl⟩ := named
  · rfl
  · rfl

theorem readTypes?_entries (worded : ∀ parameter ∈ parameters, parameter.Worded) :
    readTypes? (Output.entries parameters) = some (parameters.map Parameter.type) := by
  cases parameters with
  | nil => rfl
  | cons first others =>
      have some : (Output.entries (first :: others)).isEmpty = false := by
        rw [← Output.toList_intercalate_parameter]
        rfl
      rw [readTypes?, some, if_neg Bool.false_ne_true, Output.entries, List.splitOn_intercalate]
      · exact mapM_map_eq_some fun parameter member => readType?_parameter (worded parameter member)
      · intro entry member
        obtain ⟨parameter, here, rfl⟩ := List.mem_map.mp member
        exact Output.not_mem_parameter (worded parameter here) (.inl rfl)
      · exact List.cons_ne_nil _ _

/-- The line of a member is read as what it was written for. -/
theorem read?_memberLine (worded : WordedMember name parameters) :
    read? (Output.memberLine name parameters) = some ⟨name, parameters.map Parameter.type⟩ := by
  have visible : ' ' ∉ name.toList := worded.1.not_mem (by decide)
  rw [Output.memberLine, read?, takeWhile_ne_append visible Output.head?_entries,
    dropWhile_ne_append visible Output.head?_entries, readTypes?_entries worded.2,
    String.ofList_toList]
  rfl

end ListedMember

namespace Method

/-- A method as its line shows it. -/
def listed (method : Method) : ListedMember :=
  ⟨method.name, method.inputs.map Parameter.type⟩

end Method

namespace Signal

/-- A signal as its line shows it. -/
def listed (signal : Signal) : ListedMember :=
  ⟨signal.name, signal.parameters.map Parameter.type⟩

end Signal

namespace Interface

/-- What the listing of an interface should say. -/
def listed (interface : Interface) : Listing :=
  ⟨interface.methods.map Method.listed, interface.signals.map Signal.listed⟩

end Interface

namespace Output

variable {interface : Interface}

def methodLine (method : Method) : List Char :=
  memberLine method.name method.inputs

def signalLine (signal : Signal) : List Char :=
  memberLine signal.name signal.parameters

/-- The lines of a listing without their ends. -/
def listingLines (interface : Interface) : List (List Char) :=
  Listing.methodsHeading.toList :: interface.methods.map methodLine ++
    [] :: Listing.signalsHeading.toList :: interface.signals.map signalLine

/-- A listing with its headings under their names. -/
theorem listing_eq (interface : Interface) :
    listing interface = Listing.methodsHeading ++ "\n" ++
      String.join (interface.methods.map fun method => member method.name method.inputs) ++
      ("\n" ++ Listing.signalsHeading ++ "\n") ++
      String.join (interface.signals.map fun signal => member signal.name signal.parameters) := by
  have methods : "The following methods and their arguments can be called:\n" =
      Listing.methodsHeading ++ "\n" := by
    decide +kernel
  have signals : "\nThe following signals and their 'return' value can be waited for:\n" =
      "\n" ++ Listing.signalsHeading ++ "\n" := by
    decide +kernel
  exact (congrArg (· ++ _ ++ _ ++ _) methods).trans (congrArg (_ ++ _ ++ · ++ _) signals)

theorem toList_listing (interface : Interface) :
    (listing interface).toList = (listingLines interface).flatMap (· ++ ['\n']) := by
  rw [listing_eq]
  simp [listingLines, List.flatMap_map, toList_member, methodLine, signalLine]

section Worded

theorem not_mem_memberLine {name : String} {parameters : List Parameter}
    (worded : WordedMember name parameters) : '\n' ∉ memberLine name parameters := by
  have visible : '\n' ∉ name.toList := worded.1.not_mem (by decide)
  have later := not_mem_entries worded.2
  simp [memberLine, visible, later]

/-- The inputs are some of the parameters. -/
theorem wordedMember_inputs {method : Method}
    (worded : WordedMember method.name method.parameters) :
    WordedMember method.name method.inputs :=
  ⟨worded.1, fun parameter member => worded.2 parameter (List.mem_filter.mp member).1⟩

theorem not_mem_listingLines (worded : interface.Worded) :
    ∀ line ∈ listingLines interface, '\n' ∉ line := by
  have methods : ∀ line ∈ interface.methods.map methodLine, '\n' ∉ line := by
    rw [List.forall_mem_map]
    exact fun method declared => not_mem_memberLine (wordedMember_inputs (worded.1 method declared))
  have signals : ∀ line ∈ interface.signals.map signalLine, '\n' ∉ line := by
    rw [List.forall_mem_map]
    exact fun signal declared => not_mem_memberLine (worded.2 signal declared)
  rw [listingLines, List.forall_mem_append, List.forall_mem_cons, List.forall_mem_cons,
    List.forall_mem_cons]
  exact ⟨⟨by decide +kernel, methods⟩, List.not_mem_nil, by decide +kernel, signals⟩

theorem splitOn_listing (worded : interface.Worded) :
    (listing interface).toList.splitOn '\n' = listingLines interface ++ [[]] := by
  rw [toList_listing, splitOn_flatMap (not_mem_listingLines worded)]

theorem read?_methodLine (worded : interface.Worded) :
    ∀ method ∈ interface.methods, ListedMember.read? (methodLine method) = some method.listed :=
  fun method declared =>
    ListedMember.read?_memberLine (wordedMember_inputs (worded.1 method declared))

theorem read?_signalLine (worded : interface.Worded) :
    ∀ signal ∈ interface.signals, ListedMember.read? (signalLine signal) = some signal.listed :=
  fun signal declared => ListedMember.read?_memberLine (worded.2 signal declared)

/-- The first blank line is the one between the methods and the signals. -/
theorem blank_not_mem_methodLines (interface : Interface) :
    [] ∉ interface.methods.map methodLine := by
  intro member
  obtain ⟨method, -, blank⟩ := List.mem_map.mp member
  cases blank

theorem read?_listing (worded : interface.Worded) :
    Listing.read? (listing interface) = some interface.listed := by
  have blank := blank_not_mem_methodLines interface
  rw [Listing.read?, splitOn_listing worded, listingLines, List.cons_append, List.cons_append,
    List.append_assoc, Listing.readLines?, takeWhile_ne_append blank (by simp),
    dropWhile_ne_append blank (by simp)]
  simp [mapM_map_eq_some (read?_methodLine worded), mapM_map_eq_some (read?_signalLine worded),
    Interface.listed]

end Worded

end Output

end BusBridge
