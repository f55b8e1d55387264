import ReferencePages.FileTree
import ReferencePages.Url
import ReferencePages.Toml
import ReferencePages.Yaml
import ReferencePages.Endpoint.Fault
/-!
Why a run fails. Each failure is a cause with what it is about; its wording is in one place.
-/

namespace ReferencePages

/-- A required source is missing, or the configuration cannot be used. The variable is the one that
points to the source tree. -/
inductive ConfigurationFault
  | unparsableFile (file : Path)
  | noMapping (file : Path)
  | sourceTreeMissing (path : Path) (variableName : Text)
  | sourceFileMissing (path : Path) (variableName : Text)
  | sourceFileUnreadable (path : Path) (variableName : Text)
  | sourceDirectoryMissing (path : Path) (variableName : Text)
  | markerMissing (marker : Text) (source : Option Path)
  | manifestMissing (file : Path)
  | manifestUnreadable (file : Path) (detail : Text)
  deriving DecidableEq, Repr

namespace ConfigurationFault

/-- The fault in words. -/
def message : ConfigurationFault → Text
  | unparsableFile file => "Failed to parse " ++ file.name ++ ": the file is not well formed"
  | noMapping file => file.name ++ " must contain a mapping at the root"
  | sourceTreeMissing path _ => "Source tree not found at " ++ path.toText
  | sourceFileMissing path _ => "Required source file not found: " ++ path.toText
  | sourceFileUnreadable path _ => "Required source file is not readable: " ++ path.toText
  | sourceDirectoryMissing path _ => "Required source directory not found: " ++ path.toText
  | markerMissing marker none => "Could not find section marker '" ++ marker ++ "'"
  | markerMissing marker (some source) =>
    "Could not find section marker '" ++ marker ++ "' in " ++ source.toText
  | manifestMissing file => "Workspace manifest not found: " ++ file.toText
  | manifestUnreadable file detail =>
    "Workspace manifest is unreadable: " ++ file.toText ++ ": " ++ detail

/-- The path that the fault is about. -/
def path? : ConfigurationFault → Option Path
  | unparsableFile p | noMapping p | sourceTreeMissing p _ | sourceFileMissing p _
  | sourceFileUnreadable p _ | sourceDirectoryMissing p _ | manifestMissing p
  | manifestUnreadable p _ => some p
  | markerMissing _ source => source

/-- The variable that points to another source tree. -/
def variableName? : ConfigurationFault → Option Text
  | sourceTreeMissing _ v | sourceFileMissing _ v | sourceFileUnreadable _ v
  | sourceDirectoryMissing _ v => some v
  | _ => none

/-- The fault with a hint at the variable, if there is one. -/
def remediation (fault : ConfigurationFault) : Text :=
  match fault.variableName? with
  | some (c :: rest) =>
    fault.message ++ "\nSet " ++ (c :: rest) ++ " to point to your source checkout."
  | _ => fault.message

end ConfigurationFault

/-- Why a prompt cannot be made from its template. -/
inductive TemplateFault
  | notFound (name : Text)
  | undefined (name : Text)
  | repeatedArgument (name : Text)
  deriving DecidableEq, Repr

/-- The fault in words. -/
def TemplateFault.message : TemplateFault → Text
  | notFound name => name
  | undefined name => Text.quoted name ++ " is undefined"
  | repeatedArgument name => "got multiple values for keyword argument " ++ Text.quoted name

/-- Why a run fails. -/
inductive Failure
  | configuration (fault : ConfigurationFault)
  | undecodable (error : Utf8.DecodeError)
  | file (error : FileError)
  | homeUnknown
  | nullInPath
  | nullInText
  | badVariableName
  | numberTooLong (digits : Nat)
  | tooDeep
  | floatOverflow
  | badScalar (fault : Yaml.Fault)
  | badManifest
  | notIterable (kind : Text)
  | absolutePattern
  | emptyPattern (pattern : Text)
  | nestedStars
  | noPatternParts
  | url (fault : Url.Fault)
  | unknownGenerator (name : Text)
  | exchange (fault : ExchangeFault)
  | template (fault : TemplateFault)
  deriving Repr

/-- The limit on the digits of a number, in words. -/
def numberLimitMessage (digits : Nat) : Text :=
  "Exceeds the limit (4300 digits) for integer string conversion: value has " ++
    Text.ofNat digits ++
    " digits; use sys.set_int_max_str_digits() to increase the limit"

/-- The limit on the depth of values, in words. -/
def depthMessage : Text := "maximum recursion depth exceeded"

/-- Why a scalar has no value, in words. -/
def scalarMessage : Yaml.Fault → Text
  | .malformed => "the text is not well formed"
  | .tooDeep => depthMessage
  | .timestampMapping => "expected string or bytes-like object, got 'list'"
  | .characterRange => "chr() arg not in range(0x110000)"
  | .characterOverflow => "Python int too large to convert to C int"
  | .badInteger base text =>
    "invalid literal for int() with base " ++ Text.ofNat base ++ ": " ++ Text.quoted text
  | .emptyNumber => "string index out of range"
  | .badFloat text => "could not convert string to float: " ++ Text.quoted text
  | .numberTooLong digits => numberLimitMessage digits
  | .badBoolean text => Text.quoted text
  | .noTimestamp => "'NoneType' object has no attribute 'groupdict'"
  | .badDate reason => reason

/-- The failure in words. -/
def Failure.message : Failure → Text
  | configuration fault => fault.message
  | undecodable error => error.message
  | file error => error.message
  | homeUnknown => "Could not determine home directory."
  | nullInPath => "lstat: embedded null character in path"
  | nullInText => "embedded null byte"
  | badVariableName => "illegal environment variable name"
  | numberTooLong digits => numberLimitMessage digits
  | tooDeep => depthMessage
  | floatOverflow => "int too large to convert to float"
  | badScalar fault => scalarMessage fault
  | badManifest => "the manifest is not well formed"
  | notIterable kind => "'" ++ kind ++ "' object is not iterable"
  | absolutePattern => "Non-relative patterns are unsupported"
  | emptyPattern pattern => "Unacceptable pattern: " ++ Text.quoted pattern
  | nestedStars => "Invalid pattern: '**' can only be an entire path component"
  | noPatternParts => "tuple index out of range"
  | url fault => fault.message
  | unknownGenerator name => "Unknown generator '" ++ name ++ "'"
  | exchange fault => fault.message
  | template fault => fault.message

end ReferencePages
