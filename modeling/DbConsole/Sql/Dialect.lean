import DbConsole.Engine
import DbConsole.Text.Letter

/-!
The dialects of SQL that are read, and in what they differ. The generic dialect, which is used
where the engine is not known, takes most of what any of the others takes.
-/
set_option autoImplicit false

namespace DbConsole.Sql

inductive Dialect where
  | generic
  | mysql
  | postgres
  | sqlite
  deriving DecidableEq, Repr

namespace Dialect

def ofEngine : Option Engine → Dialect
  | none => .generic
  | some .mysql => .mysql
  | some .postgres => .postgres
  | some .sqlite => .sqlite

def isGeneric (d : Dialect) : Bool := d == .generic

def isMysql (d : Dialect) : Bool := d == .mysql

def isPostgres (d : Dialect) : Bool := d == .postgres

def isSqlite (d : Dialect) : Bool := d == .sqlite

/-- The quotes that open a name. -/
def opensName (d : Dialect) (c : Char) : Bool :=
  match d with
  | .generic => c == '"' || c.toNat == 0x60
  | .mysql => c.toNat == 0x60
  | .postgres => c == '"'
  | .sqlite => c == '"' || c.toNat == 0x60 || c == '['

/-- The characters with which a name may begin. -/
def startsWord (d : Dialect) (c : Char) : Bool :=
  match d with
  | .generic => Text.isLetter c || c == '_' || c == '#' || c == '@'
  | .mysql => Text.isAsciiLetter c || c == '_' || c == '$' || c == '@' || 128 ≤ c.toNat
  | .postgres => Text.isAsciiLetter c || c == '_' || 128 ≤ c.toNat
  | .sqlite => Text.isAsciiLetter c || c == '_' || (0x7F ≤ c.toNat && c.toNat ≤ 0xFFFF)

/-- The characters with which a name may go on. -/
def continuesWord (d : Dialect) (c : Char) : Bool :=
  match d with
  | .generic =>
    Text.isLetter c || Text.isAsciiDigit c || c == '_' || c == '#' || c == '@' || c == '$'
  | .mysql => d.startsWord c || Text.isAsciiDigit c
  | .postgres => d.startsWord c || Text.isAsciiDigit c || c == '$'
  | .sqlite => d.startsWord c || Text.isAsciiDigit c

/-- The characters of which an operator of one's own may consist. -/
def extendsOperator (d : Dialect) (c : Char) : Bool :=
  match d with
  | .postgres => "+-*/<>=~!@#%^&|?".toList.contains c || c.toNat == 0x60
  | _ => false

/-- Whether a backslash in a string escapes what follows it. -/
def escapesBackslash (d : Dialect) : Bool := d.isMysql

/-- Whether the value of a backslash before a percent sign or an underscore stays. -/
def keepsWildcardEscapes (d : Dialect) : Bool := d.isMysql

def nestsComments (d : Dialect) : Bool := d.isGeneric || d.isPostgres

/-- Whether two dashes open a comment only before a space. -/
def dashesNeedSpace (d : Dialect) : Bool := d.isMysql

/-- Whether a number sign opens a comment. -/
def hashComments (d : Dialect) : Bool := d.isMysql

/-- Whether names may begin with a digit. -/
def digitsStartWords (d : Dialect) : Bool := d.isMysql

def underscoresInNumbers (d : Dialect) : Bool := d.isPostgres

/-- Whether a dollar sign opens a placeholder, never a string. -/
def dollarPlaceholders (d : Dialect) : Bool := d.isSqlite

/-- Whether the operators on points and shapes are known. -/
def geometric (d : Dialect) : Bool := d.isPostgres

def byteStrings (d : Dialect) : Bool := !d.isSqlite

def rawStrings (d : Dialect) : Bool := d.isGeneric

def escapeStrings (d : Dialect) : Bool := d.isGeneric || d.isPostgres

def unicodeStrings (d : Dialect) : Bool := d.isGeneric || d.isPostgres

/-- The keywords that may not name a table without being quoted, beside the common ones. -/
def reservedTableAliases (d : Dialect) : List String :=
  if d.isMysql then ["USE", "IGNORE", "FORCE", "STRAIGHT_JOIN"] else []

/-- Whether strings one after another are one string. -/
def joinsStrings (d : Dialect) : Bool := d.isMysql

/-- Whether an interval type may name its units. -/
def intervalOptions (d : Dialect) : Bool := d.isGeneric || d.isPostgres

def limitTakesComma (d : Dialect) : Bool := !d.isPostgres

def filtersAggregates (d : Dialect) : Bool := !d.isMysql

def intervalNeedsUnit (d : Dialect) : Bool := d.isMysql

def shiftOperators (d : Dialect) : Bool := d.isGeneric || d.isPostgres

def bracketArrayTypes (d : Dialect) : Bool := d.isGeneric || d.isPostgres

def emptyProjections (d : Dialect) : Bool := d.isGeneric || d.isPostgres

def matchesAgainst (d : Dialect) : Bool := d.isGeneric || d.isMysql

def setsNames (d : Dialect) : Bool := !d.isSqlite

def setsSeveral (d : Dialect) : Bool := d.isGeneric || d.isMysql

def beginModifiers (d : Dialect) : Bool := d.isGeneric || d.isSqlite

def commentsOn (d : Dialect) : Bool := d.isGeneric || d.isPostgres

def groupingSets (d : Dialect) : Bool := d.isGeneric || d.isPostgres

def groupModifiers (d : Dialect) : Bool := d.isGeneric || d.isMysql

def notNullOperator (d : Dialect) : Bool := d.isSqlite || d.isPostgres

def signedSuffix (d : Dialect) : Bool := d.isGeneric || d.isMysql

def userAtHost (d : Dialect) : Bool := d.isGeneric || d.isMysql

def explainOptions (d : Dialect) : Bool := d.isGeneric || d.isPostgres

end Dialect

end DbConsole.Sql
