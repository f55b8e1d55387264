import ReferencePages.Url.IpAddress
import ReferencePages.Text.Quoted
import ReferencePages.Text.Blank
/-!
Addresses of endpoints: the host that an address names, whether it stands for the local machine, and
whether an address can be requested at all.
-/

namespace ReferencePages.Url

/-- Why an address has no well-formed host. -/
inductive Fault
  | unbalancedBrackets
  | futureAddress
  | bracketedV4
  | noAddress (host : Text)
  | expandingHost (host : Text)
  | unknownScheme (address : Text)
  deriving DecidableEq, Repr

/-- The fault in words. -/
def Fault.message : Fault → Text
  | unbalancedBrackets => "Invalid IPv6 URL"
  | futureAddress => "IPvFuture address is invalid"
  | bracketedV4 => "An IPv4 address cannot be in brackets"
  | noAddress host => Text.quoted host ++ " does not appear to be an IPv4 or IPv6 address"
  | expandingHost host =>
    "netloc '" ++ host ++ "' contains invalid characters under NFKC normalization"
  | unknownScheme address => "unknown url type: " ++ Text.quoted address

/-- Characters above U+007F whose compatibility form has a character that ends or divides a host. -/
def expandingChars : List Nat :=
  [0x2047, 0x2048, 0x2049, 0x2100, 0x2101, 0x2105, 0x2106, 0x2a74, 0xfe13, 0xfe16, 0xfe55, 0xfe56,
   0xfe5f, 0xfe6b, 0xff03, 0xff0f, 0xff1a, 0xff1f, 0xff20]

/-- The characters of a scheme. -/
def isSchemeChar (c : Char) : Bool := c.isAlphanum || c == '+' || c == '-' || c == '.'

/-- The address without its scheme, if a letter begins it and a colon ends it. -/
def withoutScheme (s : Text) : Text :=
  match Text.cutAt ':' s with
  | (scheme, some rest) =>
    if (scheme.head?.any Char.isAlpha) && scheme.all isSchemeChar then rest else s
  | (_, none) => s

/-- The address as it is read: no control characters or spaces in front, no tabs or line endings. -/
def cleaned (s : Text) : Text :=
  (s.dropWhile (·.toNat ≤ 32)).filter fun c => c != '\t' && c != '\r' && c != '\n'

/-- The part behind two slashes, up to the path, the query or the fragment. -/
def authority (s : Text) : Text :=
  match Text.after? "//" (withoutScheme (cleaned s)) with
  | none => []
  | some rest => rest.takeWhile fun c => c != '/' && c != '?' && c != '#'

/-- A host in brackets is an address of version 6, or of a version to come. -/
def checkBracketed (host : Text) : Except Fault Unit :=
  match host with
  | 'v' :: rest =>
    match rest.span fun c => (Json.hexDigit? c).isSome with
    | (_ :: _, '.' :: _ :: _) => .ok ()
    | _ => .error .futureAddress
  | _ =>
    match IpAddress.ofText? host with
    | none => .error (.noAddress host)
    | some (.v4 _) => .error .bracketedV4
    | some (.v6 _) => .ok ()

/-- An authority has brackets in pairs, an address in them, and no character that expands. -/
def checkAuthority (a : Text) : Except Fault Unit := do
  if a.elem '[' != a.elem ']' then .error .unbalancedBrackets
  if a.elem '[' then
    checkBracketed (Text.cutAt ']' ((Text.cutAt '[' a).2.getD [])).1
  if a.any fun c => expandingChars.contains c.toNat then .error (.expandingHost a)

/-- The host of an authority, without user and port. -/
def hostOfAuthority (a : Text) : Text :=
  let info := match Text.cutAtLast? '@' a with
    | some (_, info) => info
    | none => a
  match Text.cutAt '[' info with
  | (_, some bracketed) => (Text.cutAt ']' bracketed).1
  | (_, none) => (Text.cutAt ':' info).1

/-- The host that an address names, in small letters up to the name of a zone; nothing if it names
none. -/
def host? (s : Text) : Except Fault (Option Text) := do
  let a := authority s
  checkAuthority a
  let host := hostOfAuthority a
  if host.isEmpty then return none
  let (name, zone) := host.span (· != '%')
  return some (Text.lowerCase name ++ zone)

/-- Hosts that are the local machine by their name. -/
def localNames : List Text := ["localhost", "127.0.0.1", "0.0.0.0", "::1", "host.docker.internal"]

/-- Whether a host is the local machine or belongs to its own network: by its name, by the end of its
name, or by an address. -/
def isLocalHost (host : Text) : Bool :=
  let name := Text.lowerCase host
  localNames.contains name || Text.endsWith ".local" name || Text.endsWith ".localdomain" name ||
    (IpAddress.ofText? name).any IpAddress.isLoopback

/-- The address without blanks at its ends and without a label that says that it is one. -/
def unlabelled (s : Text) : Text :=
  let s := Text.trim s
  match Text.after? "URL:" s with
  | some rest => Text.trim rest
  | none => s

/-- The address without its fragment. -/
def withoutFragment (s : Text) : Text :=
  match Text.cutAtLast? '#' s with
  | some (before, _) => before
  | none => s

/-- The address as it is requested. It has to name a scheme, and its host has to be well formed. -/
def requested (s : Text) : Except Fault Text := do
  let s := unlabelled s
  match (withoutFragment s).span fun c => c != ':' && c != '/' with
  | (_ :: _, ':' :: _) => checkAuthority (authority s)
  | _ => .error (.unknownScheme s)
  return s

end ReferencePages.Url
