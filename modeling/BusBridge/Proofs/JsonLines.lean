import BusBridge.Proofs.JsonReading
import BusBridge.Proofs.LimitedOutput
import Mathlib.Data.List.Forall2

/-!
# Results as lines of JSON

A result in the JSON form takes one line, whatever the texts in it, and the line reads back as
the values of the result.
-/

namespace BusBridge

namespace Json

section Printable

/-- There are no control characters below U+0020 among the characters. -/
def Printable (characters : List Char) : Prop :=
  ∀ character ∈ characters, 0x20 ≤ character.toNat

instance : DecidablePred Printable :=
  fun characters => List.decidableBAll (fun character : Char => 0x20 ≤ character.toNat) characters

variable {document : Json} {first second : List Char}

@[simp]
theorem printable_append :
    Printable (first ++ second) ↔ Printable first ∧ Printable second :=
  List.forall_mem_append

@[simp]
theorem printable_cons {character : Char} :
    Printable (character :: second) ↔ 0x20 ≤ character.toNat ∧ Printable second :=
  List.forall_mem_cons

@[simp]
theorem printable_nil : Printable [] :=
  nofun

theorem printable_escapedChar (character : Char) : Printable (escapedChar character) := by
  rcases escapedChar_cases character with ⟨escape, known, written⟩ | ⟨control, written⟩ |
    ⟨visible, -, -, written⟩
  · have letter : 0x20 ≤ escape.toNat := by
      unfold simpleEscape? at known
      split at known <;> first | decide | cases known
    rw [written]
    simp [letter]
  · have digits : ∀ code < 0x20, 0x20 ≤ (Nat.digitChar (code / 16)).toNat ∧
        0x20 ≤ (Nat.digitChar (code % 16)).toNat := by decide +kernel
    rw [written, (hexPadded_control _ control).1]
    simp [digits _ control]
  · rw [written]
    simp [visible]

@[simp]
theorem printable_writeString (text : String) : Printable (writeString text) := by
  have escaped : Printable (text.toList.flatMap escapedChar) := by
    intro character member
    obtain ⟨source, -, here⟩ := List.mem_flatMap.mp member
    exact printable_escapedChar source character here
  simp [writeString, escaped]

theorem printable_writeItems {items : List Json}
    (printable : ∀ item ∈ items, Printable item.write) : Printable (writeItems items) := by
  induction items with
  | nil =>
      rw [writeItems]
      simp
  | cons item items ih =>
      obtain ⟨here, later⟩ := List.forall_mem_cons.mp printable
      rw [writeItems]
      simp [here, ih later]

theorem printable_writeMembers {members : List (String × Json)}
    (printable : ∀ member ∈ members, Printable member.2.write) :
    Printable (writeMembers members) := by
  induction members with
  | nil =>
      rw [writeMembers]
      simp
  | cons member members ih =>
      obtain ⟨here, later⟩ := List.forall_mem_cons.mp printable
      rw [writeMembers]
      simp [here, ih later]

theorem printable_integer (number : Int) : Printable (toString number).toList := by
  have digits (magnitude : Nat) : Printable (Nat.toDigits 10 magnitude) := by
    intro character member
    have digit : character.isDigit = true :=
      Nat.isDigit_of_mem_toDigits (by decide) (by decide) member
    simp only [Char.isDigit, Bool.and_eq_true, decide_eq_true_eq, UInt32.le_iff_toNat_le] at digit
    exact Nat.le_trans (by decide) digit.1
  rw [toList_toString]
  split
  next => simp [digits]
  next => exact digits _

/-- A plain document is written without control characters. -/
theorem Plain.printable (plain : Plain document) : Printable document.write := by
  induction plain with
  | null =>
      rw [write]
      decide
  | boolean flag => cases flag <;> rw [write] <;> decide
  | integer number =>
      rw [write]
      exact printable_integer number
  | string text =>
      rw [write]
      exact printable_writeString text
  | @array items plain printable =>
      cases items with
      | nil =>
          rw [write]
          decide
      | cons item items =>
          obtain ⟨here, later⟩ := List.forall_mem_cons.mp printable
          rw [write]
          simp [here, printable_writeItems later]
  | @object members plain printable =>
      cases members with
      | nil =>
          rw [write]
          decide
      | cons member members =>
          obtain ⟨here, later⟩ := List.forall_mem_cons.mp printable
          rw [write]
          simp [here, printable_writeMembers later]

end Printable

end Json

namespace RawText

theorem utf8EncodeChar_printable {character : Char} (printable : 0x20 ≤ character.toNat) :
    ∀ byte ∈ String.utf8EncodeChar character, 0x20 ≤ byte := by
  have code : character.val.toNat = character.toNat := rfl
  intro byte member
  rw [UInt8.le_iff_toNat_le]
  simp only [String.utf8EncodeChar, code] at member
  -- The bytes of a character beyond ASCII all have the highest bit.
  split at member
  · obtain rfl := List.mem_singleton.mp member
    simp
    omega
  · have high : 0x80 ≤ byte.toNat := by
      split at member
      · simp at member
        rcases member with rfl | rfl <;> simp <;> omega
      · split at member
        · simp at member
          rcases member with rfl | rfl | rfl <;> simp <;> omega
        · simp at member
          rcases member with rfl | rfl | rfl | rfl <;> simp <;> omega
    exact Nat.le_trans (by decide) high

theorem bytes_printable {text : String} (printable : Json.Printable text.toList) :
    ∀ byte ∈ (ofString text).bytes, 0x20 ≤ byte := by
  intro byte member
  rw [bytes_eq_flatMap] at member
  obtain ⟨character, inside, here⟩ := List.mem_flatMap.mp member
  exact utf8EncodeChar_printable (printable character inside) byte here

end RawText

namespace Value

/-- The document is what the value is as JSON, if it is not a double. -/
inductive Shows : Value → Json → Prop
  | integer (type : IntegerType) (number : type.Number) :
      Shows (integer type number) (.integer number.val)
  | boolean (flag : Bool) : Shows (boolean flag) (.boolean flag)
  | string (text : String) : Shows (string text) (.string text)
  | other (text : String) : Shows (other text) (.string text)

variable {value : Value} {values : List Value} {document : Json}

theorem shows_toJson (exact : value.type? ≠ some .double) : value.Shows value.toJson := by
  cases value with
  | integer type number => exact .integer type number
  | boolean flag => exact .boolean flag
  | double number => exact absurd rfl exact
  | string text => exact .string text
  | other text => exact .other text

theorem Shows.plain (shows : value.Shows document) : document.Plain := by
  cases shows with
  | integer type number => exact .integer number.val
  | boolean flag => exact .boolean flag
  | string text => exact .string text
  | other text => exact .string text

theorem forall₂_toJson (exact : ∀ value ∈ values, value.type? ≠ some .double) :
    List.Forall₂ Shows values (values.map toJson) := by
  rw [List.forall₂_map_right_iff, List.forall₂_same]
  exact fun value member => shows_toJson (exact value member)

theorem plain_toJson (exact : ∀ value ∈ values, value.type? ≠ some .double) :
    (Json.array (values.map toJson)).Plain :=
  Json.plain_array fun value member => (shows_toJson (exact value member)).plain

end Value

namespace Output

/-- The bytes are one line, without other control characters, and the line is the document. -/
def IsLine (bytes : List UInt8) (document : Json) : Prop :=
  ∃ line : String, bytes = (RawText.ofString line).bytes ++ [0x0A] ∧
    (∀ byte ∈ (RawText.ofString line).bytes, 0x20 ≤ byte) ∧ Json.read? line = some document

theorem isLine_document {json : Json} (plain : json.Plain) :
    IsLine (bytes (document json)) json := by
  have printable : Json.Printable json.compact.toList := by
    rw [Json.compact, String.toList_ofList]
    exact plain.printable
  exact ⟨json.compact, bytes_document json, RawText.bytes_printable printable,
    Json.read?_compact plain⟩

theorem isLine_reply {reply : List Value} (exact : ∀ value ∈ reply, value.type? ≠ some .double) :
    ∃ items, List.Forall₂ Value.Shows reply items ∧
      IsLine (bytes (Output.reply .json reply)) (.array items) :=
  ⟨_, Value.forall₂_toJson exact, isLine_document (Value.plain_toJson exact)⟩

theorem isLine_arrival {arrival : Arrival}
    (exact : ∀ value ∈ arrival.values, value.type? ≠ some .double) :
    ∃ items, List.Forall₂ Value.Shows arrival.values items ∧
      IsLine (bytes (Output.arrival .json arrival))
        (.object [("signal", .string arrival.signal), ("values", .array items)]) := by
  refine ⟨_, Value.forall₂_toJson exact, isLine_document (.object ?_)⟩
  simp only [List.forall_mem_cons]
  exact ⟨.string arrival.signal, Value.plain_toJson exact, nofun⟩

/-- Without doubles a reply and an arrival each take exactly one line of JSON, whatever the texts
in them, and the line reads back as their values.  A call with a signal shows two such lines. -/
theorem json_output_reads_back {reply : List Value} {arrival : Arrival}
    (replied : ∀ value ∈ reply, value.type? ≠ some .double)
    (arrived : ∀ value ∈ arrival.values, value.type? ≠ some .double) :
    ∃ items arrivalItems, List.Forall₂ Value.Shows reply items ∧
      List.Forall₂ Value.Shows arrival.values arrivalItems ∧
      let replyDocument : Json := .array items
      let arrivalDocument : Json :=
        .object [("signal", .string arrival.signal), ("values", .array arrivalItems)]
      IsLine ((Sink.empty none).write (Output.reply .json reply)).2.accepted replyDocument ∧
      IsLine ((Sink.empty none).write (Output.arrival .json arrival)).2.accepted
        arrivalDocument ∧
      ∀ {σ : Type} (world : World σ) (arguments : List RawText) (name : String)
        (tokens : List String) (signals : SignalSet) (limit : WaitLimit) (session : Session σ)
        (connection : Connection σ),
        Run.Reaches world arguments .json (.method name tokens signals limit) session
          connection →
        (session.invokeAndWait name tokens signals limit connection).1 =
          .done ⟨reply, some (.ok arrival)⟩ →
        ∃ first second,
          (Run.ofArguments world arguments (.empty none)).output.accepted = first ++ second ∧
            IsLine first replyDocument ∧ IsLine second arrivalDocument := by
  obtain ⟨items, shown, replyLine⟩ := isLine_reply replied
  obtain ⟨arrivalItems, arrivalShown, arrivalLine⟩ := isLine_arrival arrived
  refine ⟨items, arrivalItems, shown, arrivalShown, ?_, ?_, ?_⟩
  · rw [accepted_unlimited]
    exact replyLine
  · rw [accepted_unlimited]
    exact arrivalLine
  · intro σ world arguments name tokens signals limit session connection reaches gave
    exact ⟨_, _, Run.accepted_of_arrived reaches gave, replyLine, arrivalLine⟩

/-- The line break in the version does not break the line. -/
theorem version_reads_back :
    (∀ value ∈ versionReply, value.type? ≠ some .double) ∧
      ∃ first second,
        (Run.ofArguments versionWorld versionLine (.empty none)).output.accepted =
            first ++ second ∧
          IsLine first (.array [.string "0.2\n"]) ∧
          IsLine second
            (.object [("signal", .string "pfmDoneProcessing"), ("values", .array [])]) := by
  have exact : ∀ value ∈ versionReply, value.type? ≠ some .double := by decide +kernel
  obtain ⟨connection, reaches, arrives⟩ := version_arrives
  obtain ⟨items, arrivalItems, shown, arrivalShown, -, -, calls⟩ :=
    @json_output_reads_back versionReply ⟨"pfmDoneProcessing", []⟩ exact
      (List.forall_mem_nil _)
  obtain ⟨first, second, whole, replyLine, arrivalLine⟩ := calls _ _ _ _ _ _ _ _ reaches arrives
  cases arrivalShown
  cases shown with
  | cons here rest =>
      cases rest
      cases here
      exact ⟨exact, first, second, whole, replyLine, arrivalLine⟩

end Output

end BusBridge
