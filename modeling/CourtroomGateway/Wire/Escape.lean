/-! Reserved characters in free text. Escaping writes `#`, `%`, `$` and `&` as the four tokens
`<num>`, `<percent>`, `<dollar>` and `<and>`; unescaping replaces the tokens one kind at a time
in that order, each from left to right without overlap. -/

namespace CourtroomGateway.Wire

structure Reserved where
  raw : Char
  token : List Char
deriving Repr, DecidableEq

def reserved : List Reserved :=
  [⟨'#', "<num>".toList⟩, ⟨'%', "<percent>".toList⟩, ⟨'$', "<dollar>".toList⟩,
    ⟨'&', "<and>".toList⟩]

def escapeChar (c : Char) : List Char :=
  match reserved.find? fun r => r.raw = c with
  | some r => r.token
  | none => [c]

def escapeChars (cs : List Char) : List Char := cs.flatMap escapeChar

/-- Replaces the tokens that start at or after the first `skip` characters, which are left out
because the token before them covers them. -/
def Reserved.restoreFrom (r : Reserved) : Nat → List Char → List Char
  | _, [] => []
  | skip + 1, _ :: cs => r.restoreFrom skip cs
  | 0, c :: cs =>
    if r.token.isPrefixOf (c :: cs) then r.raw :: r.restoreFrom (r.token.length - 1) cs
    else c :: r.restoreFrom 0 cs

def Reserved.restore (r : Reserved) (cs : List Char) : List Char := r.restoreFrom 0 cs

def unescapeChars (cs : List Char) : List Char := reserved.foldl (fun cs r => r.restore cs) cs

def escape (s : String) : String := String.ofList (escapeChars s.toList)

def unescape (s : String) : String := String.ofList (unescapeChars s.toList)

@[simp] theorem toList_escape (s : String) : (escape s).toList = escapeChars s.toList :=
  String.toList_ofList

@[simp] theorem toList_unescape (s : String) : (unescape s).toList = unescapeChars s.toList :=
  String.toList_ofList

end CourtroomGateway.Wire
