import MeteredDownload.Proxy.Target
import MeteredDownload.Settings

/-!
# Proxies

The environment names a proxy for each scheme, or one for all, and the hosts for which none is used.
-/
set_option autoImplicit false
namespace MeteredDownload.Proxy

open Text

/-- The value of the first variable that is not empty: the name is tried in lower case and in upper case. -/
def setting (env : Environment) (name : String) : List Char :=
  match env.lookup (name.map Char.toLower) with
  | some value => if value.isEmpty then upper else value.toList
  | none => upper
where
  upper : List Char := ((env.lookup (name.map Char.toUpper)).getD "").toList

def firstOf (values : List (List Char)) : List Char := (values.find? (!·.isEmpty)).getD []

def usualPort (scheme : List Char) : Nat :=
  if scheme = "gopher".toList then 70 else (Url.usualPorts.lookup scheme).getD 0

def portOf (t : Target) : Nat :=
  match Http.decimalValue t.port with
  | 0 => usualPort t.scheme
  | port => port

structure Exemption where
  host : List Char
  port? : Option Nat
  deriving DecidableEq, Repr

namespace Exemption

/-- Digits at the end, behind a colon, name a port; port zero stands for all. -/
def ofText (s : List Char) : Exemption :=
  let digits := (s.reverse.takeWhile Char.isDigit).reverse
  match s.reverse.dropWhile Char.isDigit with
  | ':' :: c :: front =>
    if digits.isEmpty then ⟨s, none⟩
    else
      let port := Http.decimalValue digits
      ⟨(c :: front).reverse, if port = 0 then none else some port⟩
  | _ => ⟨s, none⟩

/-- Is a host exempt?  A star or a dot in front stands for any beginning. -/
def covers (e : Exemption) (host : List Char) (port : Nat) : Bool :=
  let portFits := match e.port? with
    | none => true
    | some p => p = port
  portFits && match e.host with
    | '*' :: ending => ending.isSuffixOf host
    | '.' :: name => ('.' :: name).isSuffixOf host
    | name => name = host

end Exemption

def exemptions (s : List Char) : List Exemption :=
  let isBreak (c : Char) : Bool := c = ',' || isBlank c
  let items := splitOn ',' (s.map fun c => if isBreak c then ',' else c)
  (items.filter (!·.isEmpty)).map Exemption.ofText

/-- A letter in lower case.  Of the letters beyond ASCII only the sign of the kelvin has one in ASCII, and
there are no others in the name of a host. -/
def lowerCase (c : Char) : Char := if c = '\u212a' then 'k' else c.toLower

def isExempt (env : Environment) (t : Target) : Bool :=
  let listed := firstOf [setting env "npm_config_no_proxy", setting env "no_proxy"]
  (exemptions (listed.map lowerCase)).any (·.covers t.host (portOf t))

/-- The proxy that the environment names for a target.  Without a scheme of its own it has that of the
target. -/
def forTarget? (env : Environment) (t : Target) : Option (List Char) :=
  if !t.isNamed || isExempt env t then none
  else
    let scheme := String.ofList t.scheme
    let proxy := firstOf [setting env ("npm_config_" ++ scheme ++ "_proxy"),
      setting env (scheme ++ "_proxy"), setting env "npm_config_proxy", setting env "all_proxy"]
    if proxy.isEmpty then none
    else if hasSchemeMark proxy then some proxy
    else some (t.scheme ++ [':', '/', '/'] ++ proxy)
where
  hasSchemeMark : List Char → Bool
    | ':' :: '/' :: '/' :: _ => true
    | _ :: rest => hasSchemeMark rest
    | [] => false

end MeteredDownload.Proxy
