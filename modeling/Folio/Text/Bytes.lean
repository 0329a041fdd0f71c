/-!
# Text as bytes

The bytes of a text, and the text of bytes that may not be well formed. `pieces` splits bytes into
characters and stray runs: a stray run is the longest start of a character that the bytes break
off, or one byte that starts none. `lossy` shows each stray run as one replacement character, and
`text?` is the text only where there is no stray run.
-/

namespace Folio.Text

/-- The bytes of a text. -/
def encode (s : String) : List UInt8 := s.toList.flatMap String.utf8EncodeChar

/-- The number of bytes that a text takes. -/
def byteLength (s : String) : Nat := (encode s).length

/-- Texts with the same bytes are the same. -/
theorem encode_injective {s t : String} (h : encode s = encode t) : s = t := by
  rw [← String.toByteArray_inj, ← String.utf8Encode_toList, ← String.utf8Encode_toList]
  exact congrArg List.toByteArray h

/-- A byte that continues a character. -/
def isContinuation (b : UInt8) : Bool := 0x80 ≤ b && b ≤ 0xbf

/-- The second byte `b` may follow the first byte `a` of a character of three or four bytes. -/
def mayFollow (a b : UInt8) : Bool :=
  if a = 0xe0 then 0xa0 ≤ b && b ≤ 0xbf
  else if a = 0xed then 0x80 ≤ b && b ≤ 0x9f
  else if a = 0xf0 then 0x90 ≤ b && b ≤ 0xbf
  else if a = 0xf4 then 0x80 ≤ b && b ≤ 0x8f
  else isContinuation b

/-- The value that a continuation byte adds to the bits before it. -/
def addBits (bits : Nat) (b : UInt8) : Nat := bits * 64 + b.toNat % 64

/-- The first piece of bytes that start with `a`: a character, or none for a stray run, and the
bytes after it. -/
def firstPiece (a : UInt8) (rest : List UInt8) : Option Char × List UInt8 :=
  if a < 0x80 then (some (Char.ofNat a.toNat), rest)
  else if 0xc2 ≤ a && a ≤ 0xdf then
    match rest with
    | b :: rest' =>
      if isContinuation b then (some (Char.ofNat (addBits (a.toNat % 32) b)), rest') else (none, rest)
    | [] => (none, rest)
  else if 0xe0 ≤ a && a ≤ 0xef then
    match rest with
    | b :: rest' =>
      if mayFollow a b then
        match rest' with
        | c :: rest'' =>
          if isContinuation c then (some (Char.ofNat (addBits (addBits (a.toNat % 16) b) c)), rest'')
          else (none, rest')
        | [] => (none, rest')
      else (none, rest)
    | [] => (none, rest)
  else if 0xf0 ≤ a && a ≤ 0xf4 then
    match rest with
    | b :: rest' =>
      if mayFollow a b then
        match rest' with
        | c :: rest'' =>
          if isContinuation c then
            match rest'' with
            | d :: rest''' =>
              if isContinuation d then
                (some (Char.ofNat (addBits (addBits (addBits (a.toNat % 8) b) c) d)), rest''')
              else (none, rest'')
            | [] => (none, rest'')
          else (none, rest')
        | [] => (none, rest')
      else (none, rest)
    | [] => (none, rest)
  else (none, rest)

theorem firstPiece_length_le (a : UInt8) (rest : List UInt8) :
    (firstPiece a rest).2.length ≤ rest.length := by
  unfold firstPiece
  repeat' split
  all_goals simp only [List.length_cons]; omega

/-- The pieces of bytes in order: characters, and `none` for each stray run. -/
def pieces : List UInt8 → List (Option Char)
  | [] => []
  | a :: rest =>
    have := firstPiece_length_le a rest
    (firstPiece a rest).1 :: pieces (firstPiece a rest).2
  termination_by bs => bs.length
  decreasing_by simp only [List.length_cons]; omega

/-- The character that stands for a stray run. -/
def replacement : Char := Char.ofNat 0xfffd

/-- The text of bytes, with a replacement character for each stray run. -/
def lossy (bytes : List UInt8) : String := String.ofList ((pieces bytes).map (·.getD replacement))

/-- The text of bytes that hold no stray run. -/
def text? (bytes : List UInt8) : Option String := ((pieces bytes).mapM id).map String.ofList

end Folio.Text
