import Mathlib.Data.List.Forall2
import TreeSchema.Schema.Basic

/-!
What a rendering program means. A record is given by what its fields show; a template is filled with
what its arguments show, and a program is followed step by step.
-/

namespace TreeSchema

/-- What shows by itself: a token by its lexeme, anything else by its display. -/
inductive Item where
  | token (lexeme : String)
  | display (text : String)
  deriving DecidableEq, Repr

def Item.text : Item → String
  | .token lexeme => lexeme
  | .display text => text

/-- What a field of a record holds. -/
inductive FieldValue where
  | one (item : Item)
  | optional (item? : Option Item)
  | sequence (elements : List Item)
  deriving DecidableEq, Repr

/-- The values of a record's fields, by their names. -/
abbrev Values := List (String × FieldValue)

/-- The value can be held by a field of the type. -/
inductive FieldType.Holds : FieldType → FieldValue → Prop
  | token (lexeme : String) : Holds .token (.one (.token lexeme))
  | optionalToken (lexeme? : Option String) :
    Holds .optionalToken (.optional (lexeme?.map .token))
  | primitive (kind : Primitive) (text : String) : Holds (.primitive kind) (.one (.display text))
  | node (target text : String) : Holds (.node target) (.one (.display text))
  | optionalNode (target : String) (text? : Option String) :
    Holds (.optionalNode target) (.optional (text?.map .display))
  | sequence (target : String) (texts : List String) :
    Holds (.sequence target) (.sequence (texts.map .display))

/-- The values are those of a record with these fields. -/
def Values.Conform (values : Values) (fields : List Field) : Prop :=
  List.Forall₂ (fun field value => value.1 = field.name ∧ field.type.Holds value.2) fields values

/-! ### Templates -/

/-- The text of a template with arguments in its places. Doubled braces stand for one. -/
def Template.fill : List Char → List String → Option (List Char)
  | [], [] => some []
  | [], _ :: _ => none
  | '{' :: '{' :: rest, args => (fill rest args).map ('{' :: ·)
  | '}' :: '}' :: rest, args => (fill rest args).map ('}' :: ·)
  | '{' :: '}' :: rest, arg :: args => (fill rest args).map (arg.toList ++ ·)
  | c :: rest, args => if c = '{' ∨ c = '}' then none else (fill rest args).map (c :: ·)

/-- What a field shows that holds one item. -/
def Values.text? (values : Values) (name : String) : Option String :=
  match values.lookup name with
  | some (.one item) => some item.text
  | _ => none

/-! ### Programs -/

mutual

/-- What a step shows, `item?` being the item bound around it. -/
def RenderOp.meaning? (values : Values) (item? : Option Item) : RenderOp → Option String
  | .literal text => some text
  | .field name => values.text? name
  | .item => item?.map Item.text
  | .forEach name body separator =>
    match values.lookup name with
    | some (.sequence elements) =>
      (elements.mapM fun element =>
        (meanings? values (some element) body).map (· ++ separator)).map String.join
    | _ => none
  | .ifPresent name body =>
    match values.lookup name with
    | some (.optional none) => some ""
    | some (.optional (some item)) => meanings? values (some item) body
    | _ => none

def meanings? (values : Values) (item? : Option Item) : List RenderOp → Option String
  | [] => some ""
  | op :: rest => do
    let first ← op.meaning? values item?
    let others ← meanings? values item? rest
    return first ++ others

end

/-- What a record of the node shows. -/
def Node.meaning? (node : Node) (values : Values) : Option String :=
  match node.render with
  | .template format args => do
    let texts ← args.mapM values.text?
    (Template.fill format.toList texts).map String.ofList
  | .custom ops => meanings? values none ops

end TreeSchema
