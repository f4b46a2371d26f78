import StakeLedger.Service.NodeAddress.Fault
import StakeLedger.Text.Decimal
import StakeLedger.Text.DomainName
import StakeLedger.Text.Percent

/-!
# Hosts

A host is the name of a domain, an address of numbers with points between, or an address in
brackets. Where the scheme says nothing about names, the host may be any text without some
characters.
-/

namespace StakeLedger.NodeAddress

/-- The number that the part `s` of an address of numbers stands for: hexadecimal, octal or
decimal. -/
def ipv4Part? (s : List Char) : Option Nat :=
  match s with
  | '0' :: x :: rest =>
    if x = 'x' ∨ x = 'X' then Hex.toNat? 0 rest
    else (x :: rest).foldlM (fun n c =>
      if '0' ≤ c ∧ c ≤ '7' then some (8 * n + (c.toNat - 48)) else none) 0
  | s => Decimal.read? s

/-- The `labels` of a host without an empty one at its end. -/
def withoutRoot (labels : List (List Char)) : List (List Char) :=
  if labels.getLast? = some [] ∧ 1 < labels.length then labels.dropLast else labels

/-- Whether a host looks like an address of numbers: its last label is one. -/
def looksNumeric (labels : List (List Char)) : Bool :=
  match (withoutRoot labels).getLast? with
  | some [] => false
  | some last => last.all Char.isDigit || (ipv4Part? last).isSome
  | none => false

/-- Whether a host is an address of numbers: up to four, of which the last one fills the address. -/
def isIpv4 (labels : List (List Char)) : Bool :=
  match (withoutRoot labels).mapM ipv4Part? with
  | none => false
  | some ns =>
    ns.length ≤ 4 && (ns.dropLast).all (· ≤ 255) &&
      (ns.getLast?).all (· < 1 <<< (8 * (5 - ns.length)))

/-- Whether `s` is made of four numbers of eight bits with points between. -/
def isFourBytes (s : List Char) : Bool :=
  let numbers := s.splitOn '.'
  numbers.length == 4 && numbers.all fun ds =>
    (Decimal.read? ds).any (· ≤ 255) && (ds.head? != some '0' || ds.length == 1)

/-- Whether the groups of an address in brackets can go on with a text, after `count` groups, of
which any number may have been left out at one place, which `isShortened` tells. -/
def continuesIpv6 (isShortened : Bool) (count : Nat) : (fuel : Nat) → List Char → Bool
  | _, [] => isShortened || count == 8
  | 0, _ => false
  | fuel + 1, s =>
    if count = 8 then false
    else
      let group := (s.take 4).takeWhile fun c => (Hex.digit? c).isSome
      match s.drop group.length with
      | [] => isShortened || count + 1 == 8
      | ':' :: rest =>
        if group.isEmpty then !isShortened && continuesIpv6 true (count + 1) fuel rest
        else !rest.isEmpty && continuesIpv6 isShortened (count + 1) fuel rest
      -- four bytes stand for the last two groups
      | '.' :: _ => isFourBytes s && count ≤ 6 && (isShortened || count + 2 == 8)
      | _ => false

/-- Whether `s` is an address as it stands in brackets. -/
def isIpv6 (s : List Char) : Bool :=
  match s with
  | ':' :: ':' :: rest => continuesIpv6 true 1 rest.length rest
  | ':' :: _ | [] => false
  | s => continuesIpv6 false 0 s.length s

/-- Checks a `host` in brackets, between which there has to be an address. -/
def checkBracketed (host : List Char) : Except Fault Unit :=
  match host.reverse with
  | ']' :: inner => if isIpv6 (inner.reverse.drop 1) then .ok () else .error .invalidIpv6
  | _ => .error .invalidIpv6

/-- The labels of a `host` that is the name of a domain or an address of numbers. -/
def labels (host : List Char) : Except Fault (List (List Char)) :=
  match (Percent.text? (Percent.decode host)).bind fun name => DomainName.labels? name.toList with
  | none => .error .invalidName
  | some labels =>
    if labels.all List.isEmpty && labels.length ≤ 1 then .error .emptyHost
    else if looksNumeric labels && !isIpv4 labels then .error .invalidIpv4
    else .ok labels

/-- Checks the `host` of a scheme that knows names of domains. -/
def checkHost (host : List Char) : Except Fault Unit :=
  match host with
  | [] => .error .emptyHost
  | '[' :: _ => checkBracketed host
  | host => (labels host).map fun _ => ()

/-- Whether the character `c` may not stand in any host. -/
def isForbidden (c : Char) : Bool := "\x00\t\n\r #/:<>?@[\\]^|".toList.contains c

/-- Checks the `host` of a scheme that knows nothing about it. -/
def checkOpaqueHost (host : List Char) : Except Fault Unit :=
  match host with
  | '[' :: _ => checkBracketed host
  | host => if host.any isForbidden then .error .invalidCharacter else .ok ()

end StakeLedger.NodeAddress
