import Datasheet.Error
import Datasheet.Log.Line
import Datasheet.Text.Alphanumeric

/-! # Log directives

What is logged is chosen by directives between commas: a level, a target, a target with a level, or a span in
brackets with fields in braces. Only whether a text is a list of directives is decided here.
-/

namespace Datasheet.Log

open Text

/-- Where the reader of one directive stands. -/
inductive DirectivePlace where
  | start
  | levelOrTarget
  | span
  | fieldName (isEmpty : Bool)
  | afterFields
  | afterSpan
  | level (word : List Char)
  deriving DecidableEq, Repr

/-- The word is a level, the word for no level, or one of their numbers. -/
def isLevelFilter (word : List Char) : Bool :=
  word.isEmpty || (Level.read? word).isSome || readCount? word == some 0
    || word.map lowerAscii == "off".toList

def startsDirective (c : Char) : Bool :=
  c == '-' || c == ':' || c == '_' || isAlphanumeric c

/-- The place after one more character; none where no directive goes on. -/
def DirectivePlace.next? : DirectivePlace → Char → Option DirectivePlace
  | start, c => if c = '[' then some span else if startsDirective c then some levelOrTarget else none
  | levelOrTarget, c =>
      some (if c = '=' then level [] else if c = '[' then span else levelOrTarget)
  | span, c => some (if c = ']' then afterSpan else if c = '\x7b' then fieldName true else span)
  | fieldName isEmpty, c =>
      if c = '\x7d' then if isEmpty then none else some afterFields else some (fieldName false)
  | afterFields, c => if c = ']' then some afterSpan else none
  | afterSpan, c => if c = '=' then some (level []) else none
  | level word, c => some (level (word ++ [c]))

def DirectivePlace.mayEnd : DirectivePlace → Bool
  | levelOrTarget => true
  | afterSpan => true
  | level word => isLevelFilter word
  | _ => false

/-- The text is one directive. There may be blanks around it, but not around one that ends with a level. -/
def isDirective (text : List Char) : Bool :=
  match (trim text).foldlM DirectivePlace.next? DirectivePlace.start with
  | some place => place.mayEnd && (trim text == text || !(place matches .level _))
  | none => false

/-- The text is a list of directives; pieces between commas may be empty. -/
def isDirectiveList (text : List Char) : Bool :=
  (splitWhen (· == ',') text).all fun piece => piece.isEmpty || isDirective piece

def checkDirectives (text : String) : Except Error Unit :=
  if isDirectiveList text.toList then .ok () else .error .logDirective

end Datasheet.Log
