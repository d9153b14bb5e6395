import Daq.Lib.Pattern

namespace Daq.Dhcp

open Pattern

/-! What is looked for in the lines that `tcpdump` prints. -/

/-- What a group captures that matches one character or more. -/
abbrev Captured := { text : String // text ≠ "" }

/-- Which part of `DHCP_PATTERN` a line matches, with its captures. -/
inductive Match
  | start
  | yourIp (ip : Captured)
  | clientMac (mac : Captured)
  | messageType (name : Captured)
  | arp (mac ip : Captured)
deriving DecidableEq

def isIpChar (char : Char) : Bool := char.isDigit || char = '.'

def isMacChar (char : Char) : Bool :=
  ('a' ≤ char && char ≤ 'f') || char.isDigit || char = ':'

def isLetter (char : Char) : Bool :=
  ('a' ≤ char && char ≤ 'z') || ('A' ≤ char && char ≤ 'Z')

/-- `.`, which matches anything but the end of the line. -/
def isDot (char : Char) : Bool := char ≠ '\n'

section Combinators

variable {β : Type}

/-- A text as it stands. -/
def literal (word : String) (next : List Char → Option β) (text : List Char) : Option β :=
  if word.toList.isPrefixOf text then next (text.drop word.length) else none

theorem ofList_ne_empty {taken : List Char} (filled : taken ≠ []) : String.ofList taken ≠ "" := by
  intro empty
  have same := congrArg String.toList empty
  rw [String.toList_ofList] at same
  exact filled same

/-- `([...]+)` -/
def capture (test : Char → Bool) (next : Captured → List Char → Option β) :
    List Char → Option β :=
  greedily test fun taken rest =>
    if filled : taken ≠ [] then next ⟨String.ofList taken, ofList_ne_empty filled⟩ rest else none

/-- `.*` -/
def anything (next : List Char → Option β) : List Char → Option β :=
  greedily isDot fun _ => next

end Combinators

/-- `BOOTP/DHCP` -/
def startPattern : List Char → Option Match := literal "BOOTP/DHCP" fun _ => some .start

/-- `Your-IP ([0-9.]+)` -/
def ipPattern : List Char → Option Match :=
  literal "Your-IP " (capture isIpChar fun ip _ => some (.yourIp ip))

/-- `Client-Ethernet-Address ([a-f0-9:]+)` -/
def macPattern : List Char → Option Match :=
  literal "Client-Ethernet-Address " (capture isMacChar fun mac _ => some (.clientMac mac))

/-- `DHCP-Message .*53.*, length 1: ([a-zA-Z]+)` -/
def typePattern : List Char → Option Match :=
  literal "DHCP-Message " (anything (literal "53" (anything (literal ", length 1: "
    (capture isLetter fun name _ => some (.messageType name))))))

/-- `([a-f0-9:]+) > ff:ff:ff:ff:ff:ff, ethertype ARP .* tell ([0-9.]+),` -/
def arpPattern : List Char → Option Match :=
  capture isMacChar fun mac => literal " > ff:ff:ff:ff:ff:ff, ethertype ARP " (anything
    (literal " tell " (capture isIpChar fun ip => literal "," fun _ => some (.arp mac ip))))

/-- The first of the patterns that matches where the text begins. -/
def matchHere (text : List Char) : Option Match :=
  (startPattern text).orElse fun _ => (ipPattern text).orElse fun _ =>
    (macPattern text).orElse fun _ => (typePattern text).orElse fun _ => arpPattern text

/-- `re.search`, for a pattern that matches no empty text. -/
def search : List Char → Option Match
  | [] => none
  | first :: rest => (matchHere (first :: rest)).orElse fun _ => search rest

/-- `DHCP_PATTERN` in a line. -/
def searchLine (line : String) : Option Match := search line.toList

example : searchLine "    10.0.0.1.67 > 10.20.32.162.68: BOOTP/DHCP, Reply, length 300\n" =
    some .start := by
  decide +kernel

example : searchLine "\t    DHCP-Message (53), length 1: ACK\n" =
    some (.messageType ⟨"ACK", by decide⟩) := by
  decide +kernel

example : searchLine ("12:00:00.000000 9a:02:57:1e:8f:01 > ff:ff:ff:ff:ff:ff, ethertype ARP " ++
    "(0x0806), length 42: Ethernet (len 6), IPv4 (len 4), Request who-has 10.0.0.1 tell " ++
    "10.0.0.5, length 28\n") =
      some (.arp ⟨"9a:02:57:1e:8f:01", by decide⟩ ⟨"10.0.0.5", by decide⟩) := by
  decide +kernel

end Daq.Dhcp
