import WarehouseAccess.Text.CaseTable
/-!
# Lower case

The lower-case form of a text by the default case conversion of the Unicode standard: each
character is replaced by its own lower-case form, except that a capital sigma at the end of a word
becomes the final sigma.
-/

namespace WarehouseAccess

/-- Among letters of ASCII case is a distance of 32, all other characters go through the table. -/
def lowercaseChar (c : Char) : List Char :=
  let n := c.toNat
  if n < 0x80 then
    if 0x41 ≤ n && n ≤ 0x5A then [Char.ofNat (n + 32)] else [c]
  else if n == 0x130 then ['i', Char.ofNat 0x307]
  else
    let i := floorIndex (fun i => (lowercaseRuns.getD i ⟨0, 0, 1, 0⟩).first) n
      lowercaseRuns.size 0 lowercaseRuns.size
    match lowercaseRuns[i]? with
    | some run => if run.covers n then [Char.ofNat ((n : Int) + run.shift).toNat] else [c]
    | none => [c]

/-- The first character that case rules do not pass over is one with letter case. -/
def startsCased (l : List Char) : Bool :=
  match l.dropWhile fun c => inRanges caseIgnorableRanges c.toNat with
  | c :: _ => inRanges casedRanges c.toNat
  | [] => false

/-- A sigma is final when a letter stands before it and none after it, marks apart.  The first
argument is the text before it, nearest character first. -/
def isFinalSigma (before after : List Char) : Bool :=
  startsCased before && !startsCased after

/-- Lower case of a text whose earlier part is given, nearest character first. -/
def lowercaseFrom (before : List Char) : List Char → List Char
  | [] => []
  | c :: rest =>
    let lower :=
      if c.toNat == 0x3A3 then
        [Char.ofNat (if isFinalSigma before rest then 0x3C2 else 0x3C3)]
      else lowercaseChar c
    lower ++ lowercaseFrom (c :: before) rest

/-- The lower-case form of a text. -/
def lowercase (s : String) : String :=
  String.ofList (lowercaseFrom [] s.toList)

end WarehouseAccess
