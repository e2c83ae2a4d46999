import FlightQuery.Field

/-! Everything that can go wrong, and how it is told. -/

namespace FlightQuery

/-- A fault in the text of a literal. -/
inductive LiteralFault where
  | trailingCharacters
  | nestedList
  | unexpectedCharacter
  | missingValue
  | unterminatedText
  | unterminatedEscape
  | numberOutOfRange (number : String)
  | invalidNumber (number : String)
  | separatorExpected
  | unterminatedList
  deriving DecidableEq, Repr

/-- A fault in a filter expression. -/
inductive ExpressionFault where
  /-- No operator stands in the expression. -/
  | noOperator (expression : String)
  /-- The operator behind the only operand is no check. -/
  | unexpectedCheck (expression : String)
  /-- The operator compares nothing. -/
  | unknownOperator (operator expression : String)
  /-- The operator of a range is no comparison. -/
  | unboundedRange (operator expression : String)
  /-- The literal is at fault at the given character. -/
  | literal (fault : LiteralFault) (position : Nat) (token : String)
  /-- The word stands without quotes. -/
  | bareWord (word : String)
  /-- A constant stands in the place of a field name. -/
  | fieldNameExpected (found : String)
  /-- A list stands beside a comparison. -/
  | listOperand (token : String)
  /-- The list of a membership is empty. -/
  | noValues (operator : String)
  deriving DecidableEq, Repr

/-- A fault in the settings. -/
inductive SettingsFault where
  | fileMissing (path : String)
  | fileNotText (path : String)
  | fileIsFolder (path : String)
  | emptyKey (path : String) (line : Nat)
  | openSection (path : String) (line : Nat)
  | maxTrials (value : String)
  | noUsername
  | noPassword
  | unknownServer (name : String)
  | rootWithoutPath (root : String)
  deriving DecidableEq, Repr

/-- A fault in a parameter of a request. -/
inductive ParameterFault where
  | emptyPath
  | unknownAggregate (name : String)
  | noDatabase (name : String) (available : List String)
  | noInstallation (available : List String)
  | severalInstallations (candidates : List String)
  /-- A store tells its own reason. -/
  | told (reason : String)
  deriving DecidableEq, Repr

/-- A fault in data that is converted. -/
inductive ConversionFault where
  | repeatedColumn (name : String)
  | discreteKey (key : String)
  deriving DecidableEq, Repr

/-- A fault in a URL. -/
inductive UrlFault where
  | emptyHost
  | idna
  | invalidPort
  | invalidIpv4
  | invalidIpv6
  | invalidDomainCharacter
  | relativeWithoutBase
  deriving DecidableEq, Repr

/-- The reason why an operation fails. -/
inductive Error where
  | settings (fault : SettingsFault)
  /-- The server rejects the credentials. -/
  | authentication
  /-- A request gets no usable reply. -/
  | transport
  /-- The lifetime of a token leads out of the calendar. -/
  | lifetime
  /-- The server answers a request with a status that is no success. -/
  | rejected (status address body : String)
  | parameter (fault : ParameterFault)
  | malformed (fault : ExpressionFault)
  | unknownField (keyword : String)
  | unsupportedOperator (operator : String) (type : FieldType)
  | unmappedValue (value fieldId : String)
  | valuesNotLoaded (fieldId : String)
  | unknownFieldType (name : String)
  | invalidLiteral (value fieldName : String)
  | conversion (fault : ConversionFault)
  /-- A file cannot be read or written. -/
  | storage
  /-- A document does not have the expected form. -/
  | document
  | url (fault : UrlFault)
  deriving DecidableEq, Repr

/-- What a literal is at fault with. -/
def LiteralFault.message : LiteralFault → String
  | trailingCharacters => "unexpected trailing characters"
  | nestedList => "nested lists are not supported"
  | unexpectedCharacter => "unexpected character"
  | missingValue => "missing value"
  | unterminatedText => "unterminated string"
  | unterminatedEscape => "unterminated escape"
  | numberOutOfRange number => "number '" ++ number ++ "' is out of range"
  | invalidNumber number => "invalid number '" ++ number ++ "'"
  | separatorExpected => "expected ',' or ']'"
  | unterminatedList => "unterminated list"

/-- A text in double quotes. -/
def inQuotes (text : String) : String := "\"" ++ text ++ "\""

/-- What an expression is at fault with. -/
def ExpressionFault.message : ExpressionFault → String
  | noOperator expression =>
    "cannot find any valid conditional operator in " ++ inQuotes expression
  | unexpectedCheck expression => "unexpected unary operator in " ++ inQuotes expression
  | unknownOperator operator expression =>
    "unknown operator '" ++ operator ++ "' in " ++ inQuotes expression
  | unboundedRange operator expression =>
    "'" ++ operator ++ "' cannot bound a range in " ++ inQuotes expression
  | literal fault position token =>
    fault.message ++ " at position " ++ position.repr ++ " of literal " ++ token
  | bareWord word => "'" ++ word ++ "' is not a literal; quote names and text values"
  | fieldNameExpected found => "expected a quoted field name, found " ++ found
  | listOperand token => "a list cannot be used with this operator: " ++ token
  | noValues operator => "'" ++ operator ++ "' needs at least one value"

/-- What the settings are at fault with. -/
def SettingsFault.message : SettingsFault → String
  | fileMissing path =>
    "Config file not found: " ++ path ++ ". Run `ems config` to create it."
  | fileNotText path => "couldn't read " ++ path ++ ": stream did not contain valid UTF-8"
  | fileIsFolder path => "couldn't read " ++ path ++ ": Is a directory (os error 21)"
  | emptyKey path line =>
    "couldn't read " ++ path ++ ": line " ++ line.repr ++ ":0: Key cannot be empty"
  | openSection path line =>
    "couldn't read " ++ path ++ ": line " ++ line.repr ++
      ": Found opening bracket for section name but no closing bracket"
  | maxTrials value => "max_trials must be a positive integer, got '" ++ value ++ "'"
  | noUsername => "Username not configured"
  | noPassword => "Password not configured"
  | unknownServer name =>
    "Unknown server '" ++ name ++
      "'. Use one of prod, cluster, stable, beta, nightly or set server_url"
  | rootWithoutPath root => "Invalid API root: " ++ root

/-- What a parameter is at fault with. -/
def ParameterFault.message : ParameterFault → String
  | emptyPath => "Empty field path"
  | unknownAggregate name =>
    "Unknown aggregation '" ++ name ++
      "'. Use one of none, avg, count, max, min, stdev, sum, var"
  | noDatabase name available =>
    "No database matches '" ++ name ++ "'. Available: " ++ ", ".intercalate available
  | noInstallation available =>
    "No matching EMS system. You have access to: " ++ ", ".intercalate available
  | severalInstallations candidates =>
    "Several EMS systems match, choose one of: " ++ ", ".intercalate candidates
  | told reason => reason

/-- What converted data are at fault with. -/
def ConversionFault.message : ConversionFault → String
  | repeatedColumn name =>
    "duplicate: column with name '" ++ name ++ "' has more than one occurrence"
  | discreteKey key => "Discrete key '" ++ key ++ "' is not an integer"

/-- What a URL is at fault with. -/
def UrlFault.message : UrlFault → String
  | emptyHost => "empty host"
  | idna => "invalid international domain name"
  | invalidPort => "invalid port number"
  | invalidIpv4 => "invalid IPv4 address"
  | invalidIpv6 => "invalid IPv6 address"
  | invalidDomainCharacter => "invalid domain character"
  | relativeWithoutBase => "relative URL without a base"

/-- How an error is told. -/
def Error.message : Error → String
  | settings fault => "Configuration error: " ++ fault.message
  | authentication =>
    "Authentication failed: Authentication failed. Check your username and password."
  | transport => "HTTP request failed"
  | lifetime => "Token lifetime out of range"
  | rejected status address body =>
    "API request failed: " ++ status ++ " " ++ address ++ ": " ++ body
  | parameter fault => "Invalid parameter: " ++ fault.message
  | malformed fault => "Malformed filter expression: " ++ fault.message
  | unknownField keyword => "No field was found with the keyword '" ++ keyword ++ "'"
  | unsupportedOperator operator type =>
    "Unsupported conditional operator " ++ operator ++ " for " ++ type.name ++ " field"
  | unmappedValue value fieldId =>
    "'" ++ value ++ "' could not be found in the values of field " ++ fieldId
  | valuesNotLoaded fieldId =>
    "Discrete values of field " ++ fieldId ++
      " are not loaded; fetch them with FieldTree::fetch_discrete_values"
  | unknownFieldType name => "Unknown field data type: " ++ name
  | invalidLiteral value fieldName =>
    "Invalid literal: " ++ value ++ ": use a boolean value for " ++ fieldName
  | conversion fault => "Data conversion error: " ++ fault.message
  | storage => "IO error"
  | document => "JSON parsing error"
  | url fault => "Invalid URL: " ++ fault.message

/-- A result that may fail. -/
abbrev Outcome (α : Type) := Except Error α

end FlightQuery
