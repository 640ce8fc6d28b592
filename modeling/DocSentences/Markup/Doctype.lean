import DocSentences.Markup.ElementClass

/-!
# Document types

A document type declaration reaches to the first `>`, even inside quotes. It names the document type
and may identify it publicly and by system.
-/

namespace DocSentences.Markup.Doctype

/-- Drops blank characters at the start. -/
def skipSpace (s : List Char) : List Char := s.dropWhile isSpace

/-- Reads a quoted identifier: its text, and what follows the closing quote if there is one. -/
def quotedId? : List Char → Option (String × Option (List Char))
  | [] => none
  | quote :: rest =>
      if quote = '"' || quote = '\'' then
        some (String.ofList (rest.takeWhile (· != quote)),
          match rest.dropWhile (· != quote) with
          | [] => none
          | _ :: after => some after)
      else none

/-- What follows a keyword, if the text starts with it in either case. -/
def afterKeyword? (keyword : String) (s : List Char) : Option (List Char) :=
  let length := keyword.length
  if (s.take length).map Char.toLower = keyword.toList then some (s.drop length) else none

/-- Adds the system identifier at the start of a text. -/
def readSystem (d : Doctype) (s : List Char) : Doctype :=
  match quotedId? (skipSpace s) with
  | some (id, after) => { d with systemId := some id, isMalformed := after.isNone }
  | none => { d with isMalformed := true }

/-- Adds the public identifier at the start of a text, and a system identifier after it. -/
def readPublic (d : Doctype) (s : List Char) : Doctype :=
  match quotedId? (skipSpace s) with
  | some (id, some after) =>
      let d := { d with publicId := some id }
      if (skipSpace after).isEmpty then d else d.readSystem after
  | some (id, none) => { d with publicId := some id, isMalformed := true }
  | none => { d with isMalformed := true }

/-- The declaration with the given text between the keyword and the `>`. -/
def read (s : List Char) : Doctype :=
  let name := ((skipSpace s).takeWhile (!isSpace ·)).map Char.toLower
  let rest := skipSpace ((skipSpace s).dropWhile (!isSpace ·))
  if name.isEmpty then ⟨none, none, none, true⟩
  else
    let d : Doctype := ⟨some (String.ofList name), none, none, false⟩
    if rest.isEmpty then d
    else
      match afterKeyword? "public" rest, afterKeyword? "system" rest with
      | some after, _ => d.readPublic after
      | none, some after => d.readSystem after
      | none, none => { d with isMalformed := true }

end DocSentences.Markup.Doctype
