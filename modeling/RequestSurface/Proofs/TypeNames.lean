import Mathlib
import RequestSurface.Proofs.WrittenTypes

/-!
# What the names of types tell apart

Fields that are resolved with one table, which starts empty and which nothing but fields and units
work on, have texts for their types. For Python the texts are the same exactly if the types are,
because no class begins with a small letter as everything built in does. For Java a type that needs
no import and one that is imported may have one short name, and then the two are written alike; this
is the only way in which texts of different types are the same.
-/

namespace RequestSurface

/-- A field denotes a type on a surface. -/
def Field.Denotes (surface : Surface) (package : String) (field : Field) (type : SurfaceType) :
    Prop :=
  ∃ inner, field.types surface package = .ok ⟨type, inner⟩

namespace Surface

variable {package name other : String}

/-- What is built into Python has a short name that nothing imported has. -/
theorem shortName_ne_of_builtin (mentionable : python.Mentionable package name)
    (otherMentionable : python.Mentionable package other)
    (isImplicit : python.needsImport name = false)
    (isExplicit : python.needsImport other = true) : shortName name ≠ shortName other := by
  intro same
  cases mentionable with
  | message reference =>
      rw [needsImport_messageName_python] at isImplicit
      cases isImplicit
  | fixed listed =>
      cases otherMentionable with
      | message reference =>
          have small := (shape_of_mem_fixedNames listed).2.2 rfl isImplicit
          rw [same, shortName_messageName, isLower_head?_className] at small
          cases small
      | fixed otherListed =>
          rw [eq_of_mem_fixedNames listed otherListed same, isExplicit] at isImplicit
          cases isImplicit

/-- For Python no names that types mention are namesakes. -/
theorem not_namesakes_python (mentionable : python.Mentionable package name)
    (otherMentionable : python.Mentionable package other) : ¬ python.Namesakes name other := by
  intro namesakes
  have differ : python.needsImport name = !python.needsImport other :=
    Bool.eq_not.mpr namesakes.apart
  cases imported : python.needsImport other with
  | true =>
      have isImplicit : python.needsImport name = false := by simp [differ, imported]
      exact shortName_ne_of_builtin mentionable otherMentionable isImplicit imported namesakes.short
  | false =>
      have isExplicit : python.needsImport name = true := by simp [differ, imported]
      exact shortName_ne_of_builtin otherMentionable mentionable imported isExplicit
        namesakes.short.symm

end Surface

namespace ImportTable

/-- Texts of fields that are resolved one after the other are the same exactly if the types of the
fields have the same containers around leaves that are the same or namesakes. -/
theorem text_eq_iff_of_mem_resolutions {surface : Surface} {package : String} {calls : List Call}
    {first second : Resolution} (uses : ∀ call ∈ calls, call.isUse = true)
    (isFirst : first ∈ resolutions surface package {} calls)
    (isSecond : second ∈ resolutions surface package {} calls) :
    ∃ type other, first.field.Denotes surface package type ∧
      second.field.Denotes surface package other ∧
      surface.Mentionable package type.leaf ∧ surface.Mentionable package other.leaf ∧
      (first.text.whole = second.text.whole ↔ type.containers = other.containers ∧
        (type.leaf = other.leaf ∨ surface.Namesakes type.leaf other.leaf)) := by
  have records : (performAll surface package {} calls).RecordsOnly (surface.Importable package) :=
    RecordsOnly.empty.performAll uses
  obtain ⟨types, typed, spelled⟩ := spelledWith_of_mem_resolutions isFirst
  obtain ⟨otherTypes, otherTyped, otherSpelled⟩ := spelledWith_of_mem_resolutions isSecond
  have mentionable := (Field.mentionable_leaf typed).2
  have otherMentionable := (Field.mentionable_leaf otherTyped).2
  exact ⟨types.whole, otherTypes.whole, ⟨_, typed⟩, ⟨_, otherTyped⟩, mentionable, otherMentionable,
    spelled.whole.text_eq_iff records otherSpelled.whole mentionable otherMentionable⟩

/-- For Python, however fields are resolved and units assembled with one table, the texts of two
fields are the same exactly if the fields denote the same type. -/
theorem python_text_eq_iff (package : String) (calls : List Call)
    (uses : ∀ call ∈ calls, call.isUse = true) (first second : Resolution)
    (isFirst : first ∈ resolutions .python package {} calls)
    (isSecond : second ∈ resolutions .python package {} calls) :
    ∃ type other, first.field.Denotes .python package type ∧
      second.field.Denotes .python package other ∧
      (first.text.whole = second.text.whole ↔ type = other) := by
  obtain ⟨type, other, denotes, otherDenotes, mentionable, otherMentionable, alike⟩ :=
    text_eq_iff_of_mem_resolutions uses isFirst isSecond
  have noNamesakes := Surface.not_namesakes_python mentionable otherMentionable
  refine ⟨type, other, denotes, otherDenotes, ?_⟩
  rw [alike, SurfaceType.eq_iff, or_iff_left noNamesakes]

/-- A map to a message with the short name of a type that units import. -/
def anyMessages : Field where
  name := "messages"
  schema := { type := some "object", additional := some { reference := some "any" } }

/-- A map to values of any type. -/
def anyValues : Field where
  name := "values"
  schema := { type := some "object", additional := some { type := some "any" } }

/-- Calls that resolve both maps, with a failure and a unit between them. -/
def anyCalls : List Call :=
  [.resolve anyMessages, .resolve ⟨"pair", { type := some "tuple" }⟩,
    .assemble .python "library" (.disk (.ofText "out")) default, .resolve anyValues]

/-- The maps to messages and to values of any type have different texts. -/
theorem python_text_eq_iff_any :
    (∀ call ∈ anyCalls, call.isUse = true) ∧
    ∃ first ∈ resolutions .python "library" {} anyCalls,
      ∃ second ∈ resolutions .python "library" {} anyCalls,
        (∃ type other, first.field.Denotes .python "library" type ∧
          second.field.Denotes .python "library" other ∧
          (first.text.whole = second.text.whole ↔ type = other)) ∧
        first.text.whole = "dict[str, Any]" ∧ second.text.whole = "dict[str, Any2]" := by
  have uses : ∀ call ∈ anyCalls, call.isUse = true := by decide
  have isFirst : ⟨anyMessages, ⟨"dict[str, Any]", "dict[str, Any]"⟩⟩ ∈
      resolutions .python "library" {} anyCalls :=
    @mem_resolutions .python "library" {} [] (anyCalls.drop 1) anyMessages _ (by decide +kernel)
  have isSecond : ⟨anyValues, ⟨"dict[str, Any2]", "dict[str, Any2]"⟩⟩ ∈
      resolutions .python "library" {} anyCalls :=
    @mem_resolutions .python "library" {} (anyCalls.take 3) [] anyValues _ (by decide +kernel)
  exact ⟨uses, _, isFirst, _, isSecond,
    python_text_eq_iff "library" anyCalls uses _ _ isFirst isSecond, rfl, rfl⟩

/-- For Java, however fields are resolved and units assembled with one table, the texts of two
fields are the same exactly if the fields denote types with the same containers around leaves that
are the same or namesakes: of one short name, the one imported and the other not. -/
theorem java_text_eq_iff (package : String) (calls : List Call)
    (uses : ∀ call ∈ calls, call.isUse = true) (first second : Resolution)
    (isFirst : first ∈ resolutions .java package {} calls)
    (isSecond : second ∈ resolutions .java package {} calls) :
    ∃ type other, first.field.Denotes .java package type ∧
      second.field.Denotes .java package other ∧
      (first.text.whole = second.text.whole ↔ type.containers = other.containers ∧
        (type.leaf = other.leaf ∨ Surface.java.Namesakes type.leaf other.leaf)) := by
  obtain ⟨type, other, denotes, otherDenotes, -, -, alike⟩ :=
    text_eq_iff_of_mem_resolutions uses isFirst isSecond
  exact ⟨type, other, denotes, otherDenotes, alike⟩

/-- A list of numbers that are too large for the types that need no import. -/
def largeNumbers : Field where
  name := "numbers"
  schema :=
    { type := some "array"
      items := some { type := some "string", format := some "uint64" } }

/-- A list of messages with the short name of such numbers. -/
def largeMessages : Field where
  name := "messages"
  schema := { reference := some "BigInteger", repeated := true }

/-- Calls that resolve both lists. -/
def largeCalls : List Call :=
  [.resolve largeNumbers, .resolve largeMessages]

/-- What is in the two lists is imported under different names. -/
theorem java_text_eq_iff_large :
    (∀ call ∈ largeCalls, call.isUse = true) ∧
    ∃ first ∈ resolutions .java "com.example" {} largeCalls,
      ∃ second ∈ resolutions .java "com.example" {} largeCalls,
        (∃ type other, first.field.Denotes .java "com.example" type ∧
          second.field.Denotes .java "com.example" other ∧
          (first.text.whole = second.text.whole ↔ type.containers = other.containers ∧
            (type.leaf = other.leaf ∨ Surface.java.Namesakes type.leaf other.leaf))) ∧
        first.text.whole = "List<BigInteger>" ∧ second.text.whole = "List<BigInteger2>" := by
  have uses : ∀ call ∈ largeCalls, call.isUse = true := by decide
  have isFirst : ⟨largeNumbers, ⟨"List<BigInteger>", "BigInteger"⟩⟩ ∈
      resolutions .java "com.example" {} largeCalls :=
    @mem_resolutions .java "com.example" {} [] (largeCalls.drop 1) largeNumbers _
      (by decide +kernel)
  have isSecond : ⟨largeMessages, ⟨"List<BigInteger2>", "BigInteger2"⟩⟩ ∈
      resolutions .java "com.example" {} largeCalls :=
    @mem_resolutions .java "com.example" {} (largeCalls.take 1) [] largeMessages _
      (by decide +kernel)
  exact ⟨uses, _, isFirst, _, isSecond,
    java_text_eq_iff "com.example" largeCalls uses _ _ isFirst isSecond, rfl, rfl⟩

/-- A field with a text. -/
def plainText : Field where
  name := "text"
  schema := { type := some "string" }

/-- A field with a message that is called like the type of texts. -/
def textMessage : Field where
  name := "message"
  schema := { reference := some "String" }

/-- Fields with different leaves may have the same text: the message that is called like the type of
texts is imported under the name by which texts are written without an import. -/
theorem java_text_clash :
    ¬ ∀ (package : String) (calls : List Call) (first second : Resolution)
        (type other : SurfaceType), (∀ call ∈ calls, ∃ field, call = .resolve field) →
        first ∈ resolutions .java package {} calls → second ∈ resolutions .java package {} calls →
        first.field.Denotes .java package type → second.field.Denotes .java package other →
        type.leaf ≠ other.leaf → first.text.whole ≠ second.text.whole := by
  intro unambiguous
  have isFirst : ⟨plainText, ⟨"String", "String"⟩⟩ ∈
      resolutions .java "com.example" {} [.resolve plainText, .resolve textMessage] :=
    @mem_resolutions .java "com.example" {} [] [.resolve textMessage] plainText _
      (by decide +kernel)
  have isSecond : ⟨textMessage, ⟨"String", "String"⟩⟩ ∈
      resolutions .java "com.example" {} [.resolve plainText, .resolve textMessage] :=
    @mem_resolutions .java "com.example" {} [.resolve plainText] [] textMessage _
      (by decide +kernel)
  have denotes : plainText.Denotes .java "com.example" (.named "java.lang.String") :=
    ⟨.named "java.lang.String", by decide +kernel⟩
  have otherDenotes : textMessage.Denotes .java "com.example" (.named "com.example.String") :=
    ⟨.named "com.example.String", by decide +kernel⟩
  exact unambiguous "com.example" _ _ _ _ _ (by simp) isFirst isSecond denotes otherDenotes
    (by decide) rfl

end ImportTable

end RequestSurface
