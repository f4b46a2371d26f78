/-!
# Faults of Node Addresses

What keeps a text from being the address of a node.
-/

namespace StakeLedger.NodeAddress

/-- Why no node can be reached at an address. The first fault from the left is reported. -/
inductive Fault where
  | relative
  | emptyHost
  /-- The host is not the name of a domain. -/
  | invalidName
  /-- The host holds a character that no host may hold. -/
  | invalidCharacter
  /-- The host is not an address in brackets. -/
  | invalidIpv6
  /-- The host looks like an address of numbers, but is not one. -/
  | invalidIpv4
  /-- The port is not a number of 16 bits. -/
  | invalidPort
  /-- The address has no host. -/
  | noHost
  /-- The scheme is not HTTP. -/
  | unsupportedScheme
  deriving DecidableEq, Repr

/-- The text shown for a fault, at the end of the message of `Node.connect`. -/
def Fault.message : Fault → String
  | relative => "Invalid URL: relative URL without a base"
  | emptyHost => "Invalid URL: empty host"
  | invalidName => "Invalid URL: invalid international domain name"
  | invalidCharacter => "Invalid URL: invalid domain character"
  | invalidIpv6 => "Invalid URL: invalid IPv6 address"
  | invalidIpv4 => "Invalid URL: invalid IPv4 address"
  | invalidPort => "Invalid URL: invalid port number"
  | noHost => "Invalid host"
  | unsupportedScheme => "URL scheme not supported, expects 'http' or 'https'"

end StakeLedger.NodeAddress
