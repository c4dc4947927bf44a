import AsmDispatch.Text.Numeral

/-! # Text as bytes

Decoding stops at the first bytes that are no character and says where and why. Input that arrives
in chunks is decoded chunk by chunk: a character cut by the end of a chunk waits for the next one,
and a position counts from the first byte that was waiting. -/

namespace AsmDispatch.Text

abbrev Bytes := List UInt8

namespace Utf8

inductive Reason where
  | invalidStart
  | invalidContinuation
  | unexpectedEnd
deriving DecidableEq, Repr

/-- The bytes from `start` on, `length` of them and `first` the first, are no character. -/
structure Error where
  first : UInt8
  start : Nat
  length : Nat
  reason : Reason
deriving DecidableEq, Repr

def Reason.text : Reason → Text
  | .invalidStart => "invalid start byte"
  | .invalidContinuation => "invalid continuation byte"
  | .unexpectedEnd => "unexpected end of data"

def Error.place (e : Error) : Text :=
  if e.length = 1 then
    "byte 0x" ++ hexDigits 2 e.first.toNat ++ " in position " ++ decimal e.start
  else "bytes in position " ++ decimal e.start ++ "-" ++ decimal (e.start + e.length - 1 : Nat)

def Error.message (e : Error) : Text :=
  "'utf-8' codec can't decode " ++ e.place ++ ": " ++ e.reason.text

/-- What stands at the start of a sequence of bytes. -/
inductive Step where
  | done
  | char (c : Char) (rest : Bytes)
  /-- A character may begin here, but the bytes end before it does. -/
  | cut
  | bad (length : Nat) (reason : Reason)

def isContinuation (b : UInt8) : Bool := 0x80 ≤ b && b ≤ 0xbf

/-- Bytes that can follow the first byte of a character of three or four bytes: neither overlong
forms nor surrogates nor anything above the last code point. -/
def canFollow (first second : UInt8) : Bool :=
  isContinuation second &&
    (first != 0xe0 || 0xa0 ≤ second) && (first != 0xed || second ≤ 0x9f) &&
    (first != 0xf0 || 0x90 ≤ second) && (first != 0xf4 || second ≤ 0x8f)

/-- The code point with the given leading bits and six more from each continuation byte. -/
def codePoint (lead : Nat) (tail : Bytes) : Char :=
  Char.ofNat (tail.foldl (fun n b => n * 64 + (b.toNat - 0x80)) lead)

def step : Bytes → Step
  | [] => .done
  | a :: rest =>
    if a < 0x80 then .char (Char.ofNat a.toNat) rest
    else if a < 0xc2 || 0xf4 < a then .bad 1 .invalidStart
    else match rest with
      | [] => .cut
      | b :: rest =>
        if a < 0xe0 then
          if isContinuation b then .char (codePoint (a.toNat - 0xc0) [b]) rest
          else .bad 1 .invalidContinuation
        else if !canFollow a b then .bad 1 .invalidContinuation
        else match rest with
          | [] => .cut
          | c :: rest =>
            if !isContinuation c then .bad 2 .invalidContinuation
            else if a < 0xf0 then .char (codePoint (a.toNat - 0xe0) [b, c]) rest
            else match rest with
              | [] => .cut
              | d :: rest =>
                if !isContinuation d then .bad 3 .invalidContinuation
                else .char (codePoint (a.toNat - 0xf0) [b, c, d]) rest

theorem length_lt_of_step_eq_char {bs rest : Bytes} {c : Char} (h : step bs = .char c rest) :
    rest.length < bs.length := by
  revert h
  fun_cases step bs <;> simp only [Step.char.injEq, reduceCtorEq, false_implies, and_imp]
  all_goals
    intro _ h
    simp only [← h, List.length_cons]
    omega

/-- The first two bytes of a surrogate and nothing after them. -/
def isHalfSurrogate : Bytes → Bool
  | [0xed, b] => 0xa0 ≤ b && b ≤ 0xbf
  | _ => false

/-- Decode bytes whose first stands at position `start`. Bytes that wait for more come back with the
text if `more` may follow, and are an error otherwise; half a surrogate waits as well. -/
def decodeFrom (more : Bool) (start : Nat) (bs : Bytes) : Except Error (Text × Bytes) :=
  match _h : step bs with
  | .done => .ok ([], [])
  | .char c rest => (decodeFrom more (start + c.utf8Size) rest).map fun r => (c :: r.1, r.2)
  | .cut =>
    if more then .ok ([], bs) else .error ⟨bs.headD 0, start, bs.length, .unexpectedEnd⟩
  | .bad length reason =>
    if more && isHalfSurrogate bs then .ok ([], bs)
    else .error ⟨bs.headD 0, start, length, reason⟩
termination_by bs.length
decreasing_by exact length_lt_of_step_eq_char _h

def decode (bs : Bytes) : Except Error Text := (decodeFrom false 0 bs).map (·.1)

/-- The number of bytes that arrive at a time. -/
def chunkSize : Nat := 8192

/-- Bytes in chunks, all full but the last. `fuel` bounds their number. -/
def chunks : Nat → Bytes → List Bytes
  | 0, _ => []
  | fuel + 1, bs => if bs.isEmpty then [] else bs.take chunkSize :: chunks fuel (bs.drop chunkSize)

def encode (t : Text) : Bytes := t.flatMap String.utf8EncodeChar

end Utf8

end AsmDispatch.Text
