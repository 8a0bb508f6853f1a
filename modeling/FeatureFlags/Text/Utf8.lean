/-!
# UTF-8

Bytes are read one character at a time.  `next` either finds a character or says how many bytes
of the input form the longest beginning of a character that cannot be completed; strict decoding
stops there, lossy decoding writes one replacement character for it and goes on behind it.

A sequence is well formed if its first byte announces its length, its second byte lies in the
range that excludes overlong forms, surrogates and values above `0x10FFFF`, and every later byte
is a continuation byte.
-/

namespace FeatureFlags.Text.Utf8

/-- Bytes of a text, each below 256. -/
abbrev Bytes := List UInt8

/-- What the front of a byte sequence holds. -/
inductive Front
  /-- A character, and the bytes behind it. -/
  | char (c : Char) (rest : Bytes)
  /-- Bytes that begin no character, and the bytes behind them. -/
  | invalid (rest : Bytes)

def isContinuation (b : UInt8) : Bool := 0x80 ≤ b && b ≤ 0xBF

/-- The six payload bits of a continuation byte. -/
def payload (b : UInt8) : Nat := b.toNat % 64

/-- Whether `second` may follow the first byte of a sequence of three bytes. -/
def admitsThree (first second : UInt8) : Bool :=
  if first = 0xE0 then 0xA0 ≤ second && second ≤ 0xBF
  else if first = 0xED then 0x80 ≤ second && second ≤ 0x9F
  else isContinuation second

/-- Whether `second` may follow the first byte of a sequence of four bytes. -/
def admitsFour (first second : UInt8) : Bool :=
  if first = 0xF0 then 0x90 ≤ second && second ≤ 0xBF
  else if first = 0xF4 then 0x80 ≤ second && second ≤ 0x8F
  else isContinuation second

/-- Reads the sequence that begins with `first`, which is followed by `rest`. -/
def next (first : UInt8) (rest : Bytes) : Front :=
  if first < 0x80 then .char (Char.ofNat first.toNat) rest
  else if 0xC2 ≤ first && first ≤ 0xDF then
    match rest with
    | b :: tail =>
      if isContinuation b then
        .char (Char.ofNat (first.toNat % 32 * 64 + payload b)) tail
      else .invalid rest
    | [] => .invalid rest
  else if 0xE0 ≤ first && first ≤ 0xEF then
    match rest with
    | b :: tail =>
      if admitsThree first b then
        match tail with
        | b₂ :: tail₂ =>
          if isContinuation b₂ then
            .char (Char.ofNat (first.toNat % 16 * 4096 + payload b * 64 + payload b₂)) tail₂
          else .invalid tail
        | [] => .invalid tail
      else .invalid rest
    | [] => .invalid rest
  else if 0xF0 ≤ first && first ≤ 0xF4 then
    match rest with
    | b :: tail =>
      if admitsFour first b then
        match tail with
        | b₂ :: tail₂ =>
          if isContinuation b₂ then
            match tail₂ with
            | b₃ :: tail₃ =>
              if isContinuation b₃ then
                .char (Char.ofNat (first.toNat % 8 * 262144 + payload b * 4096 +
                  payload b₂ * 64 + payload b₃)) tail₃
              else .invalid tail₂
            | [] => .invalid tail₂
          else .invalid tail
        | [] => .invalid tail
      else .invalid rest
    | [] => .invalid rest
  else .invalid rest

def Front.rest : Front → Bytes
  | .char _ rest => rest
  | .invalid rest => rest

/-- Reading never gives bytes back. -/
theorem length_rest_next_le (first : UInt8) (rest : Bytes) :
    (next first rest).rest.length ≤ rest.length := by
  unfold next
  repeat' split
  all_goals simp [Front.rest]
  all_goals omega

/-- The characters of well-formed bytes. -/
def decode? : Bytes → Option (List Char)
  | [] => some []
  | first :: rest =>
    match _front : next first rest with
    | .char c tail => (decode? tail).map (c :: ·)
    | .invalid _ => none
termination_by bytes => bytes.length
decreasing_by
  have := length_rest_next_le first rest
  simp only [_front, Front.rest] at this
  simp only [List.length_cons]
  omega

/-- The characters of any bytes, with one replacement character for each longest beginning of a
character that is not completed. -/
def decodeLossy : Bytes → List Char
  | [] => []
  | first :: rest =>
    match _front : next first rest with
    | .char c tail => c :: decodeLossy tail
    | .invalid tail => '\uFFFD' :: decodeLossy tail
termination_by bytes => bytes.length
decreasing_by
  all_goals
    have := length_rest_next_le first rest
    simp only [_front, Front.rest] at this
    simp only [List.length_cons]
    omega

/-- The bytes of one character. -/
def encodeChar (c : Char) : Bytes :=
  let n := c.toNat
  if n < 0x80 then [n.toUInt8]
  else if n < 0x800 then [(0xC0 + n / 64).toUInt8, (0x80 + n % 64).toUInt8]
  else if n < 0x10000 then
    [(0xE0 + n / 4096).toUInt8, (0x80 + n / 64 % 64).toUInt8, (0x80 + n % 64).toUInt8]
  else
    [(0xF0 + n / 262144).toUInt8, (0x80 + n / 4096 % 64).toUInt8,
      (0x80 + n / 64 % 64).toUInt8, (0x80 + n % 64).toUInt8]

def encode (text : List Char) : Bytes := text.flatMap encodeChar

end FeatureFlags.Text.Utf8
