import PolicyGuard.Url.Percent

/-!
Paths of URLs. A path is a row of segments; `.` stands for nothing and `..` for
taking the segment before away, also when their points are written as triplets.
A drive letter is never taken away.
-/

namespace PolicyGuard.Url

/-- The text of a segment with its escaped points resolved, in lower case. -/
def dots (segment : List Char) : List Char :=
  match segment with
  | '%' :: '2' :: e :: rest => if e = 'e' || e = 'E' then '.' :: dots rest else segment
  | c :: rest => if c = '.' then '.' :: dots rest else segment
  | [] => []

def isSingleDot (segment : List Char) : Bool :=
  dots segment = ['.']

def isDoubleDot (segment : List Char) : Bool :=
  dots segment = ['.', '.']

def isDriveLetter : List Char → Bool
  | [c, d] => c.isAlpha && (d = ':' || d = '|')
  | _ => false

/-- The segments, in reverse, after one more; `closed` tells that a slash follows. -/
def pushSegment (isFile closed : Bool) (segments : List (List Char)) (segment : List Char) :
    List (List Char) :=
  if isDoubleDot segment then
    let shorter :=
      match segments with
      | [] => []
      | top :: rest => if isDriveLetter top then segments else rest
    if closed then shorter else [] :: shorter
  else if isSingleDot segment then
    if closed then segments else [] :: segments
  else if isFile && segments.isEmpty && isDriveLetter segment then
    (segment.take 1 ++ [':']) :: segments
  else segment :: segments

/-- The segments of the pieces of a path. -/
def segmentsFrom (isFile : Bool) (segments : List (List Char)) :
    List (List Char) → List (List Char)
  | [] => segments.reverse
  | [last] => (pushSegment isFile false segments last).reverse
  | piece :: rest => segmentsFrom isFile (pushSegment isFile true segments piece) rest

/-- The segments of a path that follows its first slash. -/
def pathSegments (isFile : Bool) (cs : List Char) : List (List Char) :=
  segmentsFrom isFile [] ((percentEncode isHiddenInPath cs).splitOn '/')

/-- The text of a path. That of a file has no empty segments in front. -/
def pathText (isFile : Bool) (segments : List (List Char)) : List Char :=
  '/' :: ['/'].intercalate (if isFile then segments.dropWhile List.isEmpty else segments)

end PolicyGuard.Url
