import CloudDesk.Text.Mark

namespace CloudDesk.Url.Domain

open Text

inductive Direction
  | leftToRight
  | rightToLeft
  | arabicNumber
  | europeanNumber
  | neutral
  | mark
  deriving DecidableEq

namespace Direction

/-- The ranges of the tables also take in marks, which are told apart first. -/
def rightToLefts : CharTable := CharTable.read
  "5BE-5F4 608 60B 60D 61B-64A 66D-6D5 6E5-6E6 6EE-6EF 6FA-7F5 7FA-8C9 FBB2-FBD2 FD90-FDCE FE73
  10800-1091B 10920-10B35 10B40-10D23 10D40-10D8F 10E80-10FF6 1E800-1ED3D"

def arabicNumbers : CharTable := CharTable.read
  "660-669 66B-66C 10D30-10D39 10E60-10E7E"

def europeanNumbers : CharTable := CharTable.read
  "30-39 6F0-6F9 102E1-102FB"

def neutrals : CharTable := CharTable.read
  "0-2F 3A-60 7B-D7 F7 2B9-2BA 2C2-2CF 2D2-2ED 2EF-2FF 375 3F6 58A-58F 606-607 609-60A 60C
  60E-60F 66A 6DE 6E9 7F6-7F9 9F2-9F3 9FB AF1 BF3-BFA C78-C7E E3F F3A-F3D 1390-1399 1400
  169B-169C 17DB 17F0-180A 1940-1945 19DE-19FF 200C-214D 218A-2335 237B-2394 2396-2426 2440-26AB
  26AD-27FF 2900-2B95 2B97-2BFF 2CE5-2CEA 2CF9-2CFF 2E00-3004 3008-3020 3030 3037 303D-303F 30A0
  30FB 31C0-31E3 4DC0-4DFF A490-A4C6 A60D-A60F A673-A67F A700-A721 A788 A828-A82B A838-A839
  A874-A877 AB6A-AB6B FD3E-FD4F FDCF-FE46 10101 10140-1018C 10190-101A0 1091F 10B39-10B3F
  11052-11065 11660-1166C 11FD5-11FF1 16FE2 1D1E9-1D245 1D300-1D356 1E2FF 1EEF0-1F12F
  1F16D-1F16F 1F1AD 1F260-1F6D7 1F6DC-1F776 1F77B-1F8B1 1F900-1FA53 1FA60-1FA88 1FA90-1FABD
  1FABF-1FAC5 1FACE-1FADB 1FAE0-1FAE8 1FAF0-1FBCA"

def letterMarks : CharTable := CharTable.read
  "CBF CC6 11A07-11A08 11C3F"

def markLetters : CharTable := CharTable.read
  "1171E"

def of (c : Char) : Direction :=
  if letterMarks.holds c then .leftToRight
  else if isNonspacing c || markLetters.holds c then .mark
  else if rightToLefts.holds c then .rightToLeft
  else if arabicNumbers.holds c then .arabicNumber
  else if europeanNumbers.holds c then .europeanNumber
  else if neutrals.holds c then .neutral
  else .leftToRight

def isBackward (d : Direction) : Bool := d = .rightToLeft || d = .arabicNumber

end Direction

/-- No character before the Hebrew letters is written from right to left. -/
def isBackward (c : Char) : Bool := if c.toNat < 0x590 then false else (Direction.of c).isBackward

/-- The directions of a label that reads in its order: it begins with a letter, stays in the
direction of the letter, and ends with a letter or number and perhaps marks. -/
def isOrdered : List Direction → Bool
  | [] => true
  | first :: rest =>
    let body := (rest.reverse.dropWhile (· = .mark)).reverse
    match first with
    | .leftToRight =>
      body.all (fun d => !d.isBackward) &&
        (body.getLast?.all fun d => d = .leftToRight || d = .europeanNumber)
    | .rightToLeft =>
      body.all (fun d => d != .leftToRight) && (body.getLast?.all fun d => d != .neutral) &&
        !(body.contains .arabicNumber && body.contains .europeanNumber)
    | _ => false

def areOrdered (labels : List (List Char)) : Bool :=
  if labels.any fun label => label.any isBackward then
    labels.all fun label => isOrdered (label.map Direction.of)
  else true

end CloudDesk.Url.Domain
