import DbConsole.Sql.Grammar.Rules

/-!
Data types.
-/
set_option autoImplicit false

namespace DbConsole.Sql.Grammar

open DbConsole.Sql.Parser

/-- What later rules ask of a data type. -/
inductive TypeForm where
  | known
  | interval
  /-- A type that is named, and of which nothing is known. -/
  | named
  deriving DecidableEq

/-- A number in parentheses, if a parenthesis opens. -/
def optPrecision : Parser Unit := do
  if ← atSymbol "(" then
    parens literalNat

/-- One number or two in parentheses, if a parenthesis opens. -/
def optPrecisionScale : Parser Unit := do
  if ← symbol "(" then
    literalNat
    if ← symbol "," then literalNat
    needSymbol ")"

/-- As `optPrecisionScale`; the second number may be signed and has a bit less. -/
def optNumericInfo : Parser Unit := do
  if ← symbol "(" then
    literalNat
    if ← symbol "," then
      unless ← symbol "-" do
        let _ ← symbol "+"
      numberBelow (Nat.pow 2 63)
    needSymbol ")"

/-- A length in bytes, if a parenthesis opens. -/
def optByteLength : Parser Unit := do
  if ← symbol "(" then
    unless ← key "MAX" do literalNat
    needSymbol ")"

/-- A length in characters or bytes, if a parenthesis opens. -/
def optLength : Parser Unit := do
  if ← symbol "(" then
    unless ← key "MAX" do
      literalNat
      let _ ← anyKey ["CHARACTERS", "OCTETS"]
    needSymbol ")"

def optUnsigned : Parser Unit := do
  let _ ← key "UNSIGNED"

/-- What may follow an integer type. -/
def integerTail : Parser Unit := do
  optPrecision
  unless ← key "UNSIGNED" do
    if ← supports Dialect.signedSuffix then
      let _ ← key "SIGNED"

def timeTail : Parser Unit := do
  optPrecision
  if ← isAnyKey ["WITH", "WITHOUT"] then needs ["TIME", "ZONE"]

def singleString : Parser Unit := do
  match ← next with
  | .string .single _ => return ()
  | _ => refuse

/-- A number, or what is put in its place later. -/
def numberValue : Parser Unit := do
  match ← literal with
  | .number | .placeholder => return ()
  | _ => refuse

/-- A number, perhaps with a sign. -/
def number : Parser Unit := do
  unless ← symbol "+" do
    let _ ← symbol "-"
  numberValue

/-- A member of an enumeration, which may have a number. -/
def enumMember : Parser Unit := do
  let _ ← literalString
  if ← symbol "=" then number

/-- What stands in parentheses after a named type: words, numbers and strings, among which commas
count for nothing. -/
def optTypeModifiers : Parser Unit := do
  if ← symbol "(" then
    skipMany do
      match ← peek with
      | some (.word _ _ _) | some (.number _ _) | some (.string .single _)
      | some (.symbol ",") => do skip; return true
      | _ => return false
    needSymbol ")"

def intervalUnits : List String :=
  ["YEAR", "MONTH", "DAY", "HOUR", "MINUTE", "SECOND"]

/-- The pairs of units between which an interval may run. -/
def intervalSpans : List (String × List String) :=
  [("YEAR", ["MONTH"]), ("DAY", ["HOUR", "MINUTE", "SECOND"]), ("HOUR", ["MINUTE", "SECOND"]),
    ("MINUTE", ["SECOND"])]

def intervalTail : Parser Unit := do
  if ← supports Dialect.intervalOptions then
    match ← anyKey intervalUnits with
    | none => pure ()
    | some first =>
      let ends := (intervalSpans.lookup first).getD []
      unless ends.isEmpty do
        if ← key "TO" then
          let _ ← needAny ends
    optPrecision

/-- Types of one word after which nothing may follow. -/
def plainTypes : List String :=
  ["BOOLEAN", "BOOL", "FLOAT4", "FLOAT8", "FLOAT32", "FLOAT64", "INT16", "INT32", "INT64",
    "INT128", "INT256", "UINT8", "UINT16", "UINT32", "UINT64", "UINT128", "UINT256", "HUGEINT",
    "UBIGINT", "UHUGEINT", "USMALLINT", "UTINYINT", "UUID", "DATE", "DATE32", "JSON", "JSONB",
    "REGCLASS", "TEXT", "TINYTEXT", "MEDIUMTEXT", "LONGTEXT", "TINYBLOB", "MEDIUMBLOB",
    "LONGBLOB", "BYTEA", "TRIGGER"]

def integerTypes : List String :=
  ["TINYINT", "SMALLINT", "MEDIUMINT", "INT", "INTEGER", "BIGINT"]

/-- Types that may have a precision and a sign. -/
def smallIntegerTypes : List String :=
  ["INT2", "INT4", "INT8"]

def lengthTypes : List String :=
  ["VARCHAR", "NVARCHAR"]

def precisionTypes : List String :=
  ["CLOB", "BINARY", "BLOB", "BYTES", "DATETIME", "TIMESTAMPTZ", "TIMETZ", "TIMESTAMP_NTZ",
    "STRING"]

def numericTypes : List String :=
  ["NUMERIC", "BIGNUMERIC", "BIGDECIMAL"]

def geometricTypes : List String :=
  ["POINT", "LINE", "LSEG", "BOX", "PATH", "POLYGON", "CIRCLE"]

/-- What may follow the word with which a type of several words begins; nothing if the word begins
no such type. -/
def phraseTail? : String → Option (Parser Unit)
  | "FLOAT" => some do optNumericInfo; optUnsigned
  | "REAL" => some optUnsigned
  | "DOUBLE" => some do
    unless ← key "PRECISION" do optNumericInfo
    optUnsigned
  | "CHARACTER" | "CHAR" => some do
    if ← key "VARYING" then optLength
    else if ← keys ["LARGE", "OBJECT"] then optPrecision
    else optLength
  | "BIT" => some do
    let _ ← key "VARYING"
    optPrecision
  | "VARBIT" => some optPrecision
  | "VARBINARY" => some optByteLength
  | "TIMESTAMP" | "TIME" => some timeTail
  | "DEC" | "DECIMAL" => some do optNumericInfo; optUnsigned
  | "FIXEDSTRING" => some (parens literalNat)
  | "DATETIME64" => some (parens do
    literalNat
    if ← symbol "," then
      let _ ← literalString)
  | "SIGNED" | "UNSIGNED" => some do let _ ← key "INTEGER"
  | "SET" => some do let _ ← parens (commas singleString)
  | "ENUM" => some do let _ ← parens (commas enumMember)
  | "ENUM8" | "ENUM16" => some do let _ ← parens (commas enumMember)
  | _ => none

/-- Square brackets after a type, with or without a size. -/
def bracketTails : Parser Unit := do
  if ← supports Dialect.bracketArrayTypes then
    skipMany do
      if ← symbol "[" then
        let _ ← attempt literalNat
        needSymbol "]"
        return true
      else return false

/-- Closes an angle bracket. Two brackets written together close two; the second is then
reported as closed already. -/
def closeAngle (closed : Bool) : Parser Bool := do
  if closed then return false
  else if ← symbol ">" then return false
  else
    needSymbol ">>"
    return true

/-- Fields with commas between them, up to one that closed an angle bracket too many; whether there
was one. -/
def fieldsUntilClosed (field : Parser Bool) : Nat → Parser Bool
  | 0 => refuse
  | n + 1 => do
    if ← field then return true
    else if ← symbol "," then fieldsUntilClosed field n
    else return false

/-- The fields of a structure between angle brackets, if one opens: whether one did, and whether
they closed an angle bracket too many. -/
def structFields (field : Parser Bool) : Parser (Bool × Bool) := do
  if ← symbol "<" then
    let closed ← fieldsUntilClosed field ((← get).length + 1)
    return (true, ← closeAngle closed)
  else return (false, false)

/-- A field of a structure: its type, before which its name may stand. `type` reads a type, and
says whether it closed an angle bracket too many. -/
def structField (r : Rules) (type : Parser (TypeForm × Bool)) : Parser Bool := do
  if (← peek).any Token.isWord && (← ahead 1).any Token.isWord then skip
  let (_, closed) ← type
  let _ ← optionListAfter r "OPTIONS"
  return closed

/-- A type that holds other types, of which `type` reads one. The answer is whether it closed an
angle bracket too many, or nothing if the word begins no such type. -/
def compositeTail? (r : Rules) (d : Dialect) (type : Parser (TypeForm × Bool)) (k : String) :
    Option (Parser Bool) :=
  let inner : Parser Unit := do
    if (← type).2 then refuse
  let closed (p : Parser Unit) : Option (Parser Bool) := some do
    p
    return false
  let generic (p : Option (Parser Bool)) : Option (Parser Bool) :=
    if d.isGeneric then p else none
  match k with
  | "ARRAY" => some do
    needSymbol "<"
    let (_, closed) ← type
    closeAngle closed
  | "STRUCT" => generic (some do return (← structFields (structField r type)).2)
  | "NULLABLE" | "LOWCARDINALITY" => generic (closed (parens inner))
  | "MAP" => generic (closed (parens do
    inner
    needSymbol ","
    inner))
  | "UNION" => generic (closed do
    let _ ← parens (commas do
      let _ ← ident
      inner))
  | "TUPLE" => generic (closed do
    let _ ← parens (commas (structField r type)))
  | "NESTED" => generic (closed do
    let _ ← parens (commas r.column))
  | "TABLE" => closed do
    if ← atSymbol "(" then
      let _ ← parens (commas r.column)
  | _ => none

/-- A data type, nested at most so deep, and whether it closed an angle bracket too many. -/
def typeUpTo (r : Rules) : Nat → Parser (TypeForm × Bool)
  | 0 => refuse
  | n + 1 => do
    let d ← dialect
    let k ← keyAhead 0
    let form : TypeForm × Bool ←
      if !(← peek).any Token.isWord then refuse
      else if plainTypes.contains k then do skip; pure (.known, false)
      else if integerTypes.contains k then do skip; integerTail; pure (.known, false)
      else if smallIntegerTypes.contains k then do
        skip
        optPrecision
        optUnsigned
        pure (.known, false)
      else if lengthTypes.contains k then do skip; optLength; pure (.known, false)
      else if precisionTypes.contains k then do skip; optPrecision; pure (.known, false)
      else if numericTypes.contains k then do skip; optNumericInfo; pure (.known, false)
      else if k == "INTERVAL" then do skip; intervalTail; pure (.interval, false)
      else if k == "ANY" && (← keyAhead 1) == "TYPE" then do skipCount 2; pure (.known, false)
      else if (k == "TSVECTOR" || k == "TSQUERY") && (d.isGeneric || d.isPostgres) then do
        skip
        pure (.known, false)
      else
        match compositeTail? r d (typeUpTo r n) k, phraseTail? k with
        | some tail, _ => do
          skip
          pure (.known, ← tail)
        | none, some tail => do
          skip
          tail
          pure (.known, false)
        | none, none => do
          let _ ← name
          optTypeModifiers
          pure (.named, false)
    bracketTails
    return form

/-- A data type, which may close one angle bracket too many. -/
def openType (r : Rules) : Parser (TypeForm × Bool) := do
  typeUpTo r ((← get).length + 1)

def dataType (r : Rules) : Parser TypeForm := do
  let (form, closed) ← openType r
  if closed then refuse else return form

end DbConsole.Sql.Grammar
