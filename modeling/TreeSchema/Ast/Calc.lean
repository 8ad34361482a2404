import TreeSchema.Ast.Record
import TreeSchema.Ast.Sink

/-!
Calculations, a small language with one node for every kind of field and rendering.
-/

namespace TreeSchema.Ast

structure NumCalc where
  token : Token
  value : Float

structure NameCalc where
  identifier : Token
  name : Atom

structure UnitCalc where

mutual

inductive Calc where
  | num (record : NumCalc)
  | name (record : NameCalc)
  | binary (record : InfixCalc)
  | polish (record : PolishCalc)
  | list (record : ListCalc)
  | return (record : ReturnCalc)
  | label (record : LabelCalc)
  | unit (record : UnitCalc)

inductive InfixCalc where
  | record (left : Calc) (operator : Token) (right : Calc)

inductive PolishCalc where
  | record (left : Calc) (operator : Token) (right : Calc)

inductive ListCalc where
  | record (items : List Calc)

inductive ReturnCalc where
  | record (keyword : Token) (value : Option Calc)

inductive LabelCalc where
  | record (inner : Calc) (label : Option Token)

end

/-! ### Constructors -/

def NumCalc.intoCalc (record : NumCalc) : Calc := .num record
def NameCalc.intoCalc (record : NameCalc) : Calc := .name record
def InfixCalc.intoCalc (record : InfixCalc) : Calc := .binary record
def PolishCalc.intoCalc (record : PolishCalc) : Calc := .polish record
def ListCalc.intoCalc (record : ListCalc) : Calc := .list record
def ReturnCalc.intoCalc (record : ReturnCalc) : Calc := .return record
def LabelCalc.intoCalc (record : LabelCalc) : Calc := .label record
def UnitCalc.intoCalc (record : UnitCalc) : Calc := .unit record

def NumCalc.new (token : Token) (value : Float) : Calc := .num ⟨token, value⟩
def NameCalc.new (identifier : Token) (name : Atom) : Calc := .name ⟨identifier, name⟩

def InfixCalc.new (left : Calc) (operator : Token) (right : Calc) : Calc :=
  .binary (.record left operator right)

def PolishCalc.new (left : Calc) (operator : Token) (right : Calc) : Calc :=
  .polish (.record left operator right)

def ListCalc.new (items : List Calc) : Calc := .list (.record items)

def ReturnCalc.new (keyword : Token) (value : Option Calc) : Calc :=
  .return (.record keyword value)

def LabelCalc.new (inner : Calc) (label : Option Token) : Calc := .label (.record inner label)
def UnitCalc.new : Calc := .unit ⟨⟩

/-! ### Rendering -/

section

variable {m : Type → Type} [Monad m] (write : String → m Unit)

mutual

def Calc.render : Calc → m Unit
  | .num record => (floatPieces record.value).forM write
  | .name record => write record.name.text
  | .binary record => record.render
  | .polish record => record.render
  | .list record => record.render
  | .return record => record.render
  | .label record => record.render
  | .unit _ => pure ()

def InfixCalc.render : InfixCalc → m Unit
  | .record left operator right => do
    write "("
    left.render
    write " "
    write operator.lexeme
    write " "
    right.render
    write ")"

def PolishCalc.render : PolishCalc → m Unit
  | .record left operator right => do
    write "("
    write operator.lexeme
    write " "
    left.render
    write " "
    right.render
    write ")"

def ListCalc.render : ListCalc → m Unit
  | .record items => do
    write "(list "
    renderItems items
    write ")"

/-- Each item is followed by a semicolon. -/
def renderItems : List Calc → m Unit
  | [] => pure ()
  | item :: rest => do
    item.render
    write ";"
    renderItems rest

def ReturnCalc.render : ReturnCalc → m Unit
  | .record _ value => do
    write "(return"
    match value with
    | none => pure ()
    | some value => do
      write " "
      value.render
    write ")"

def LabelCalc.render : LabelCalc → m Unit
  | .record inner label => do
    inner.render
    match label with
    | none => pure ()
    | some token => do
      write " @"
      write token.lexeme

end

end

instance : Rendered Calc := ⟨fun write tree => tree.render write⟩

/-! ### The view as a record -/

mutual

def Calc.toRecord : Calc → Record
  | .num ⟨token, value⟩ =>
    .mk "Num" "NumCalc" [("token", .token token), ("value", .float value)]
  | .name ⟨identifier, name⟩ =>
    .mk "Name" "NameCalc" [("identifier", .token identifier), ("name", .atom name)]
  | .binary record => record.toRecord "Infix"
  | .polish record => record.toRecord "Polish"
  | .list record => record.toRecord "List"
  | .return record => record.toRecord "Return"
  | .label record => record.toRecord "Label"
  | .unit _ => .mk "Unit" "UnitCalc" []

def InfixCalc.toRecord (tag : Option String) : InfixCalc → Record
  | .record left operator right =>
    .mk tag "InfixCalc" [("left", .node left.toRecord), ("operator", .token operator),
      ("right", .node right.toRecord)]

def PolishCalc.toRecord (tag : Option String) : PolishCalc → Record
  | .record left operator right =>
    .mk tag "PolishCalc" [("left", .node left.toRecord), ("operator", .token operator),
      ("right", .node right.toRecord)]

def ListCalc.toRecord (tag : Option String) : ListCalc → Record
  | .record items => .mk tag "ListCalc" [("items", .sequence (calcRecords items))]

def calcRecords : List Calc → List Record
  | [] => []
  | item :: rest => item.toRecord :: calcRecords rest

def ReturnCalc.toRecord (tag : Option String) : ReturnCalc → Record
  | .record keyword value =>
    .mk tag "ReturnCalc" [("keyword", .token keyword),
      ("value",
        match value with
        | none => .absent
        | some value => .present value.toRecord)]

def LabelCalc.toRecord (tag : Option String) : LabelCalc → Record
  | .record inner label =>
    .mk tag "LabelCalc" [("inner", .node inner.toRecord), ("label", .optionalToken label)]

end

end TreeSchema.Ast
