import FeatureFlags.Text.Digits
import FeatureFlags.Text.Split

/-!
# Numeric host addresses

An IPv4 address is written as up to four numbers with points between them, the last of which fills
all bytes that are left; a number may be decimal, octal with a leading `0`, or hexadecimal with a
leading `0x`.  An IPv6 address is eight groups of up to four hexadecimal digits with colons
between them; `::` stands for at least one group of zeros, and the last two groups may be written
as an IPv4 address.
-/

namespace FeatureFlags.Url

open Text (split join Digits.hexValue? Digits.write)

/-! ## IPv4 -/

namespace Ipv4

/-- The value of digits to a base of at most sixteen. -/
def readBase? (base : Nat) (digits : List Char) : Option Nat :=
  digits.foldlM (fun n c =>
    match Digits.hexValue? c with
    | some d => if d < base then some (n * base + d) else none
    | none => none) 0

/-- The number that a part stands for, however large. A prefix without digits behind it is zero. -/
def readNumber? : List Char → Option Nat
  | [] => none
  | '0' :: 'x' :: digits => readBase? 16 digits
  | '0' :: 'X' :: digits => readBase? 16 digits
  | '0' :: c :: digits => readBase? 8 (c :: digits)
  | digits => readBase? 10 digits

/-- The parts of a host between its points, without an empty one at the end. -/
def parts (host : List Char) : List (List Char) :=
  let all := split (· = '.') host
  if all.length > 1 && all.getLast? = some [] then all.dropLast else all

/-- Whether a host can only be meant as an IPv4 address: its last part is a number. -/
def isMeant (host : List Char) : Bool :=
  match (parts host).getLast? with
  | none => false
  | some last =>
    (!last.isEmpty && last.all Text.Digits.isDigit) || (readNumber? last).isSome

/-- The address of 32 bits that the numbers of the parts stand for. -/
def ofNumbers? (numbers : List Nat) : Option Nat :=
  match numbers.getLast? with
  | none => none
  | some last =>
    let leading := numbers.dropLast
    let unit := Nat.pow 256 (4 - leading.length)
    if leading.length ≤ 3 && leading.all (· ≤ 255) && last < unit then
      some (leading.foldl (fun n part => n * 256 + part) 0 * unit + last)
    else none

def read? (host : List Char) : Option Nat :=
  ((parts host).mapM readNumber?).bind ofNumbers?

/-- Writes an address as four decimal numbers. -/
def write (address : Nat) : List Char :=
  join '.' ([3, 2, 1, 0].map fun i => Digits.write (address / Nat.pow 256 i % 256))

end Ipv4

/-! ## IPv6 -/

namespace Ipv6

/-- The value of a group. -/
def readGroup? (digits : List Char) : Option Nat :=
  if 1 ≤ digits.length && digits.length ≤ 4 then Ipv4.readBase? 16 digits else none

/-- A decimal number up to 255 without leading zeros. -/
def readByte? (digits : List Char) : Option Nat :=
  if digits.length > 1 && digits.head? = some '0' then none
  else (Text.Digits.read? digits).filter (· ≤ 255)

/-- The two groups that an embedded IPv4 address stands for. -/
def readEmbedded? (text : List Char) : Option (List Nat) :=
  match (split (· = '.') text).mapM readByte? with
  | some [a, b, c, d] => some [a * 256 + b, c * 256 + d]
  | _ => none

/-- Groups with colons between them; `last` reads the last one. -/
def readGroups? (last : List Char → Option (List Nat)) (text : List Char) : Option (List Nat) :=
  if text.isEmpty then some []
  else
    let groups := split (· = ':') text
    match groups.dropLast.mapM readGroup?, last (groups.getLast?.getD []) with
    | some front, some back => some (front ++ back)
    | _, _ => none

/-- A group, or an IPv4 address in the place of two. -/
def readLast? (text : List Char) : Option (List Nat) :=
  if text.contains '.' then readEmbedded? text else (readGroup? text).map ([·])

/-- The text before the first `::` and the text behind it. -/
def splitGap? : List Char → Option (List Char × List Char)
  | [] => none
  | ':' :: ':' :: rest => some ([], rest)
  | c :: rest => (splitGap? rest).map fun (before, behind) => (c :: before, behind)

/-- The eight groups of an address. -/
def read? (text : List Char) : Option (List Nat) :=
  match splitGap? text with
  | none => (readGroups? readLast? text).filter (·.length = 8)
  | some (before, behind) =>
    match readGroups? (fun group => (readGroup? group).map ([·])) before,
        readGroups? readLast? behind with
    | some front, some back =>
      if front.length + back.length ≤ 7 then
        some (front ++ List.replicate (8 - front.length - back.length) 0 ++ back)
      else none
    | _, _ => none

/-- The place and the length of the longest run of zeros; of several the first. -/
def longestZeros (groups : List Nat) : Nat × Nat :=
  (List.range groups.length).foldl (fun best start =>
    let run := ((groups.drop start).takeWhile (· = 0)).length
    if best.2 < run then (start, run) else best) (0, 0)

/-- A group without leading zeros. -/
def writeGroup (group : Nat) : List Char :=
  match (Text.Digits.writeHex 4 group).dropWhile (· = '0') with
  | [] => ['0']
  | digits => digits

def writeGroups (groups : List Nat) : List Char := join ':' (groups.map writeGroup)

/-- Writes an address; the longest run of two or more zeros becomes `::`. -/
def write (groups : List Nat) : List Char :=
  let (start, run) := longestZeros groups
  if run < 2 then writeGroups groups
  else writeGroups (groups.take start) ++ [':', ':'] ++ writeGroups (groups.drop (start + run))

end Ipv6

end FeatureFlags.Url
