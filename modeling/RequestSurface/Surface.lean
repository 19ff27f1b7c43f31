import RequestSurface.Words

/-!
# Surfaces

A surface is the language a request message is written in. This module holds its vocabulary: which
words are reserved, which modules need no import, how primitive types and containers are called,
and how identifiers become names.
-/

namespace RequestSurface

/-- The supported surfaces. -/
inductive Surface where
  | java
  | python
  deriving DecidableEq, Repr

namespace Surface

/-- The word that selects a surface in a configuration. -/
def label : Surface -> String
  | java => "java"
  | python => "python"

/-- The surface a word selects. -/
def ofLabel? (label : String) : Option Surface :=
  [java, python].find? (·.label == label)

/-- Words that no field may be called. -/
def reservedWords : Surface -> List String
  | java =>
      ["abstract", "assert", "boolean", "break", "byte", "case", "catch", "char", "class", "const",
        "continue", "default", "do", "double", "else", "enum", "extends", "false", "final",
        "finally", "float", "for", "goto", "if", "implements", "import", "instanceof", "int",
        "interface", "long", "native", "new", "null", "package", "private", "protected", "public",
        "return", "short", "static", "strictfp", "super", "switch", "synchronized", "this",
        "throw", "throws", "transient", "true", "try", "void", "volatile", "while", "Builder"]
  | python =>
      ["False", "None", "True", "and", "as", "assert", "async", "await", "break", "class",
        "continue", "def", "del", "elif", "else", "except", "finally", "for", "from", "global",
        "if", "import", "in", "is", "lambda", "nonlocal", "not", "or", "pass", "raise", "return",
        "try", "while", "with", "yield", "self"]

/-- Modules whose types are written by their short name and never imported. -/
def implicitModules : Surface -> List String
  | java => ["java.lang"]
  | python => ["builtins"]

/-- Qualified name of the string type. -/
def stringType : Surface -> String
  | java => "java.lang.String"
  | python => "builtins.str"

/-- Qualified name of the container of repeated values. -/
def listContainer : Surface -> String
  | java => "java.util.List"
  | python => "builtins.list"

/-- Qualified name of the container that maps strings to values. -/
def mapContainer : Surface -> String
  | java => "java.util.Map"
  | python => "builtins.dict"

/-- What the file of every request message imports. -/
def coreImports : Surface -> List String
  | java =>
      ["com.google.api.core.BetaApi", "com.google.api.gax.httpjson.ApiMessage",
        "com.google.common.collect.ImmutableList", "com.google.common.collect.ImmutableMap",
        "com.google.gson.annotations.SerializedName", "java.util.Collections",
        "java.util.HashMap", "java.util.LinkedList", "java.util.List", "java.util.Map",
        "java.util.Objects", "java.util.Set", "javax.annotation.Generated",
        "javax.annotation.Nullable"]
  | python => ["dataclasses.dataclass", "dataclasses.field", "typing.Any"]

/-- The template that renders a request message. -/
def templateName : Surface -> String
  | java => "java/message.snip"
  | python => "python/message.snip"

/-- A primitive type of a document, with the format that refines it. -/
structure Primitive where
  type : String
  format : Option String
  deriving DecidableEq, Repr

/-- Qualified names of the primitive types. -/
def primitives : Surface -> List (Primitive × String)
  | java =>
      [(⟨"string", none⟩, "java.lang.String"), (⟨"string", some "int64"⟩, "java.lang.Long"),
        (⟨"string", some "uint64"⟩, "java.math.BigInteger"),
        (⟨"integer", none⟩, "java.lang.Integer"),
        (⟨"integer", some "uint32"⟩, "java.lang.Integer"),
        (⟨"number", none⟩, "java.lang.Double"), (⟨"number", some "float"⟩, "java.lang.Float"),
        (⟨"boolean", none⟩, "java.lang.Boolean"), (⟨"any", none⟩, "java.lang.Object"),
        (⟨"object", none⟩, "java.lang.Object")]
  | python =>
      [(⟨"string", none⟩, "builtins.str"), (⟨"string", some "date"⟩, "datetime.date"),
        (⟨"string", some "date-time"⟩, "datetime.datetime"),
        (⟨"string", some "google-datetime"⟩, "datetime.datetime"),
        (⟨"string", some "google-duration"⟩, "datetime.timedelta"),
        (⟨"string", some "int64"⟩, "builtins.int"), (⟨"string", some "uint64"⟩, "builtins.int"),
        (⟨"integer", none⟩, "builtins.int"), (⟨"number", none⟩, "builtins.float"),
        (⟨"boolean", none⟩, "builtins.bool"), (⟨"any", none⟩, "typing.Any"),
        (⟨"object", none⟩, "typing.Any")]

/-- The qualified name of a primitive type. A format without an entry of its own is ignored, and
a type without an entry has no name. -/
def primitiveType? (surface : Surface) (type format : Option String) : Option String :=
  type.bind fun type =>
    (surface.primitives.lookup ⟨type, format⟩).or (surface.primitives.lookup ⟨type, none⟩)

/-- The casing of field and accessor names. -/
def memberCase (surface : Surface) (name : Name) : String :=
  match surface with
  | java => name.lowerCamel
  | python => name.lowerUnderscore

/-- The name of a field. -/
def fieldName (surface : Surface) (raw : String) : String :=
  surface.memberCase (.ofPieces [raw])

/-- The name of a class. -/
def className (_surface : Surface) (raw : String) : String :=
  (Name.ofPieces [raw]).upperCamel

/-- The name of the accessor that reads a field. -/
def getterName (surface : Surface) (raw : String) : String :=
  surface.memberCase (.ofPieces ["get", raw])

/-- The verb of the accessor that takes a whole list. -/
def extendVerb : Surface -> String
  | java => "addAll"
  | python => "extend"

/-- The name of the accessor that writes a field. -/
def setterName (surface : Surface) (raw : String) (repeated : Bool) : String :=
  surface.memberCase (.ofPieces [if repeated then surface.extendVerb else "set", raw])

/-- The name of the accessor that adds one value. -/
def adderName (surface : Surface) (raw : String) : String :=
  surface.memberCase (.ofPieces ["add", raw])

/-- A container applied to its arguments. -/
def generic (surface : Surface) (container : String) (arguments : List String) : String :=
  let inner := String.intercalate ", " arguments
  match surface with
  | java => container ++ "<" ++ inner ++ ">"
  | python => container ++ "[" ++ inner ++ "]"

/-- The qualified name of a message class. -/
def messageName (surface : Surface) (package className : String) : String :=
  match surface with
  | java => package ++ "." ++ className
  | python => package ++ "." ++ (Name.ofPieces [className]).lowerUnderscore ++ "." ++ className

/-- The file that holds a message class. -/
def fileName (surface : Surface) (typeName : String) : String :=
  match surface with
  | java => typeName ++ ".java"
  | python => (Name.ofPieces [typeName]).lowerUnderscore ++ ".py"

/-- The directories of a package. -/
def packagePath (package : String) : List String :=
  (Text.splitString '.' package).filter (!·.isEmpty)

end Surface

end RequestSurface
