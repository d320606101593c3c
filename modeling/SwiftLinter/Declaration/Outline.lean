import SwiftLinter.Declaration.Binding
import SwiftLinter.Declaration.Body

/-!
# The outline of a source text

The outline of a text holds what the rules look at besides the text itself: its
functions with their parameters, its types, its type aliases and the bindings it
declares.
-/

namespace SwiftLinter

/-- A function with a balanced body. -/
structure Function extends Declaration where
  /-- The parameter list, unless it is empty. -/
  parameters : Option Parameters

namespace Function

/-- The number of parameters. -/
def parameterCount (function : Function) : Nat :=
  match function.parameters with
  | some parameters => parameters.count
  | none => 0

/-- The names of the parameters. -/
def parameterBindings (function : Function) : List Binding :=
  match function.parameters with
  | some parameters => Binding.parametersIn parameters.text parameters.start
  | none => []

/-- The function behind a declaration. -/
def ofDeclaration (declaration : Declaration) : Function :=
  { toDeclaration := declaration
    parameters :=
      (Parameters.ofBody? declaration.body).map fun parameters =>
        parameters.shift declaration.start }

/-- All functions of a text. -/
def allIn (text : Text) : List Function :=
  (Declaration.allIn "func".toList text).map ofDeclaration

end Function

/-- The kinds of types that have a body. -/
inductive TypeKind where
  | enumType
  | structType
  | classType
  deriving DecidableEq

namespace TypeKind

/-- The keyword that introduces a type of this kind. -/
def keyword : TypeKind → String
  | .enumType => "enum"
  | .structType => "struct"
  | .classType => "class"

/-- The kinds, in the order in which a text is searched for them. -/
def all : List TypeKind := [.enumType, .structType, .classType]

end TypeKind

/-- A type with a balanced body. -/
structure TypeDeclaration extends Declaration where
  kind : TypeKind

namespace TypeDeclaration

/-- All types of a text: first the enumerations, then the structures, then the classes. -/
def allIn (text : Text) : List TypeDeclaration :=
  TypeKind.all.flatMap fun kind =>
    (Declaration.allIn kind.keyword.toList text).map fun declaration =>
      { toDeclaration := declaration, kind := kind }

end TypeDeclaration

/-- The type aliases of a text. -/
def Introduction.aliasesIn (text : Text) : List Introduction :=
  allIn "typealias".toList [] text

/-- What a text declares. -/
structure Outline where
  functions : List Function
  types : List TypeDeclaration
  aliases : List Introduction
  bindings : List Binding

namespace Outline

/-- The outline of a text. -/
def ofText (text : Text) : Outline where
  functions := Function.allIn text
  types := TypeDeclaration.allIn text
  aliases := Introduction.aliasesIn text
  bindings := Binding.declaredIn text

end Outline

end SwiftLinter
