/-!
# Reading bytes as text

Bytes are read as UTF-8. A sequence that is not well formed is replaced as a whole by
one replacement character: the longest beginning of a character that it holds, or a
single byte.
-/

namespace TableStore.Text

/-- The character that stands for bytes that are no text. -/
def replacement : Char := '\uFFFD'

/-- Whether a byte continues a character. -/
def isContinuation (byte : UInt8) : Bool :=
  0x80 ≤ byte && byte ≤ 0xBF

/-- Whether a byte may follow the first byte of a character of three or four bytes. -/
def mayFollow (first second : UInt8) : Bool :=
  if first = 0xE0 then 0xA0 ≤ second && second ≤ 0xBF
  else if first = 0xED then 0x80 ≤ second && second ≤ 0x9F
  else if first = 0xF0 then 0x90 ≤ second && second ≤ 0xBF
  else if first = 0xF4 then 0x80 ≤ second && second ≤ 0x8F
  else isContinuation second

/-- The six low bits of a byte. -/
def tail (byte : UInt8) : Nat :=
  byte.toNat % 64

/-- The first character of bytes, or the replacement character, and the number of further
bytes that it takes. -/
def leading (first : UInt8) (rest : List UInt8) : Char × Nat :=
  if first < 0x80 then (Char.ofNat first.toNat, 0)
  else if 0xC2 ≤ first ∧ first ≤ 0xDF then
    match rest with
    | b :: _ =>
        if isContinuation b then (Char.ofNat (first.toNat % 32 * 64 + tail b), 1)
        else (replacement, 0)
    | [] => (replacement, 0)
  else if 0xE0 ≤ first ∧ first ≤ 0xEF then
    match rest with
    | b :: rest =>
        if mayFollow first b then
          match rest with
          | c :: _ =>
              if isContinuation c then
                (Char.ofNat ((first.toNat % 16 * 64 + tail b) * 64 + tail c), 2)
              else (replacement, 1)
          | [] => (replacement, 1)
        else (replacement, 0)
    | [] => (replacement, 0)
  else if 0xF0 ≤ first ∧ first ≤ 0xF4 then
    match rest with
    | b :: rest =>
        if mayFollow first b then
          match rest with
          | c :: rest =>
              if isContinuation c then
                match rest with
                | d :: _ =>
                    if isContinuation d then
                      (Char.ofNat
                        (((first.toNat % 8 * 64 + tail b) * 64 + tail c) * 64 + tail d), 3)
                    else (replacement, 2)
                | [] => (replacement, 2)
              else (replacement, 1)
          | [] => (replacement, 1)
        else (replacement, 0)
    | [] => (replacement, 0)
  else (replacement, 0)

/-- The text of bytes, after skipping some of them. -/
def decodeFrom : Nat → List UInt8 → List Char
  | _, [] => []
  | 0, byte :: rest =>
      let (c, further) := leading byte rest
      c :: decodeFrom further rest
  | skipped + 1, _ :: rest => decodeFrom skipped rest

/-- The text of bytes. -/
def decodeUtf8 (bytes : List UInt8) : List Char :=
  decodeFrom 0 bytes

end TableStore.Text
