import PadRelay.Bytes

/-!
# Request targets

A request of HTTP names its target in one of three forms: a path with a query, an authority (a host
with a user and a port, if need be), or a scheme, an authority, and a path with a query. A fragment
may follow a path. Targets reach this module as visible bytes: neither blanks nor control characters
are among them.
-/

namespace PadRelay.Http

/-- Whether a byte is an ASCII letter or digit. -/
def isAlphanumeric (byte : UInt8) : Bool :=
  (0x30 ≤ byte && byte ≤ 0x39) || (0x41 ≤ byte && byte ≤ 0x5a) || (0x61 ≤ byte && byte ≤ 0x7a)

def isAmong (marks : String) (byte : UInt8) : Bool := (Bytes.ofText marks).contains byte

/-- Whether the bytes are a path and a query, either of which may be empty. What follows a number
sign is a fragment and not looked at. -/
def isPathAndQuery (bytes : Bytes) : Bool :=
  let named := bytes.takeWhile fun byte => !isAmong "#" byte
  let path := named.takeWhile fun byte => !isAmong "?" byte
  let query := named.dropWhile fun byte => !isAmong "?" byte
  !path.any (isAmong "<>`") && !query.any (isAmong "<>\"")

/-- What has been read of an authority. -/
structure Authority where
  colons : Nat := 0
  percent : Bool := false
  opened : Bool := false
  closed : Bool := false

namespace Authority

/-- Colons that may follow one another in a bracketed host. -/
def maxColons : Nat := 8

/-- The authority with one more byte. Colons and percent signs before an at sign belong to the user,
and those before a closing bracket to the host, so that they are forgotten. -/
def push? (authority : Authority) (byte : UInt8) : Option Authority :=
  if isAmong ":" byte then
    if authority.colons < maxColons then some { authority with colons := authority.colons + 1 }
    else none
  else if isAmong "[" byte then
    if authority.percent || authority.opened then none else some { authority with opened := true }
  else if isAmong "]" byte then
    if authority.opened && !authority.closed then
      some { authority with colons := 0, percent := false, closed := true }
    else none
  else if isAmong "@" byte then some { authority with colons := 0, percent := false }
  else if isAmong "%" byte then some { authority with percent := true }
  else if isAlphanumeric byte || isAmong "!$&'()*+,-.;=_~" byte then some authority
  else none

/-- Whether an authority may end: its bracket has closed, and one colon at most is left for the
port. -/
def isComplete (authority : Authority) : Bool :=
  authority.opened == authority.closed && authority.colons ≤ 1 && !authority.percent

end Authority

/-- Whether the bytes are an authority, with something behind the user. -/
def isAuthority (bytes : Bytes) : Bool :=
  !bytes.isEmpty && !bytes.getLast?.any (isAmong "@") &&
    (bytes.foldlM Authority.push? {}).any Authority.isComplete

/-- Whether a byte may stand in a scheme. -/
def isSchemeByte (byte : UInt8) : Bool := isAlphanumeric byte || isAmong "+-.~" byte

/-- Bytes that a scheme may have. -/
def maxScheme : Nat := 64

/-- What separates a scheme from its authority. -/
def schemeEnd : Bytes := Bytes.ofText "://"

/-- Whether the bytes are a target. -/
def isTarget (bytes : Bytes) : Bool :=
  if bytes.head?.any (isAmong "/") then isPathAndQuery bytes
  else
    let scheme := bytes.takeWhile isSchemeByte
    let behind := bytes.dropWhile isSchemeByte
    if schemeEnd.isPrefixOf behind then
      let rest := behind.drop schemeEnd.length
      scheme.length ≤ maxScheme && isAuthority (rest.takeWhile fun byte => !isAmong "/?#" byte) &&
        isPathAndQuery (rest.dropWhile fun byte => !isAmong "/?#" byte)
    else isAuthority bytes

end PadRelay.Http
