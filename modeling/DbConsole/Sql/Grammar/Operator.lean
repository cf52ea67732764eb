import DbConsole.Sql.Grammar.Table

/-!
Operators of one's own, and the families and classes of them that indexes use.
-/
set_option autoImplicit false

namespace DbConsole.Sql.Grammar

open DbConsole.Sql.Parser

/-- The name of an operator: any tokens with points between them. -/
def operatorName : Parser Unit := do
  skip
  let _ ← many (ifSymbol "." skip)

/-- The operators that go with an operator. -/
def relatedOperator : Parser Unit := do
  if ← key "OPERATOR" then parens operatorName else operatorName

/-- One property of an operator, named so that it may not come twice. -/
def operatorProperty (r : Rules) : Parser String := do
  let k ← needAny ["FUNCTION", "PROCEDURE", "LEFTARG", "RIGHTARG", "COMMUTATOR", "NEGATOR",
    "RESTRICT", "JOIN", "HASHES", "MERGES"]
  match k with
  | "HASHES" | "MERGES" => return k
  | "LEFTARG" | "RIGHTARG" =>
    needSymbol "="
    let _ ← dataType r
    return k
  | "COMMUTATOR" | "NEGATOR" =>
    needSymbol "="
    relatedOperator
    return k
  | _ =>
    needSymbol "="
    let _ ← name
    return if k == "PROCEDURE" then "FUNCTION" else k

/-- The types of the operands of an operator, behind the opening parenthesis. -/
def operandTypes (r : Rules) : Parser Unit := do
  let _ ← dataType r
  needSymbol ","
  let _ ← dataType r
  needSymbol ")"

/-- Types up to the closing parenthesis, of which the last may have a comma behind it. -/
def typesUntilClosed (r : Rules) : Parser Unit := do
  let _ ← many do
    if ← atSymbol ")" then return none
    else
      let _ ← dataType r
      unless ← symbol "," do
        unless ← atSymbol ")" do refuse
      return some ()
  needSymbol ")"

/-- A member of a class of operators, if one comes. -/
def classMember? (r : Rules) : Parser Bool := do
  if ← key "OPERATOR" then
    literalNat
    operatorName
    if ← symbol "(" then operandTypes r
    if ← key "FOR" then
      unless ← key "SEARCH" do
        needs ["ORDER", "BY"]
        let _ ← name
    return true
  else if ← key "FUNCTION" then
    literalNat
    if ← atSymbol "(" then
      let _ ← parens (commas (dataType r))
    let _ ← name
    if ← symbol "(" then typesUntilClosed r
    return true
  else if ← key "STORAGE" then
    let _ ← dataType r
    return true
  else return false

/-- A class of operators. Behind the comma after a member there need not be another one. -/
def operatorClass (r : Rules) : Parser Unit := do
  let _ ← name
  let _ ← key "DEFAULT"
  needs ["FOR", "TYPE"]
  let _ ← dataType r
  need "USING"
  let _ ← ident
  if ← key "FAMILY" then
    let _ ← name
  need "AS"
  skipMany do
    if ← classMember? r then symbol "," else return false

def createOperator (r : Rules) : Parser Unit := do
  if ← key "FAMILY" then
    let _ ← name
    need "USING"
    let _ ← ident
  else if ← key "CLASS" then operatorClass r
  else
    operatorName
    let properties ← parens (commas (operatorProperty r))
    unless properties.contains "FUNCTION" && properties.eraseDups.length == properties.length do
      refuse

/-- An operator to be dropped: its name and the types of its operands, of which the left one may
be missing. -/
def operatorSignature (r : Rules) : Parser Unit := do
  operatorName
  needSymbol "("
  if ← key "NONE" then
    needSymbol ","
    let _ ← dataType r
    needSymbol ")"
  else operandTypes r

def dropOperator (r : Rules) : Parser Unit := do
  if ← isAnyKey ["FAMILY", "CLASS"] then
    let _ ← ifExists
    let _ ← names
    need "USING"
    let _ ← ident
  else
    let _ ← ifExists
    let _ ← commas (operatorSignature r)
  dropBehavior

end DbConsole.Sql.Grammar
