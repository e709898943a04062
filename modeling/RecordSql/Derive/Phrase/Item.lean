import RecordSql.Derive.Phrase.Expression

/-! Declarations and statements. A list of conditions or parameters without any is left out. A
declaration whose parts are not those that belong where it stands is kept as it is; the writers of
declarations say whether the parts belong there. -/

namespace RecordSql.Derive.Writer

def conditions (inner : Inner) : Writer := do
  let word ← word? "where"
  if word.isEmpty then return []
  let ws ← listed (fun ts => atGroup .brace ts || atMark ";" ts || atMark "=" ts) do
    if atLifetime (← get) then return (← next) ++ (← mark? ":") ++ (← inner (.bounds true))
    else
      let front := (← binder inner) ++ (← inner (.type true))
      return front ++ (← mark? ":") ++ (← inner (.bounds true))
  return if ws.isEmpty then [] else word ++ ws

def visibility : Writer := do
  let word ← word? "pub"
  if word.isEmpty then return []
  match ← get with
  | .group .parenthesis content :: _ =>
    if atWordAmong ["crate", "self", "super", "in"] content then return word ++ (← next)
    else return word
  | _ => return word

def typed (inner : Inner) : Writer := do
  if atMark ":" (← get) then return (← next) ++ (← inner (.type true)) else return []

def valued (inner : Inner) : Writer := do
  if atMark "=" (← get) then return (← next) ++ (← inner (.expression true)) else return []

def namedFields (inner : Inner) : Writer :=
  listedWhole do return (← attributes) ++ (← visibility) ++ (← next) ++ (← typed inner)

def unnamedFields (inner : Inner) : Writer :=
  listedWhole do return (← attributes) ++ (← visibility) ++ (← inner (.type true))

def fields (inner : Inner) : Writer := do
  if atGroup .brace (← get) then group (namedFields inner)
  else groupOf .parenthesis (unnamedFields inner)

def variant (inner : Inner) : Writer := do
  let attrs ← attributes
  let _ ← visibility
  return attrs ++ (← next) ++ (← fields inner) ++ (← valued inner)

def input (inner : Inner) : Writer := do
  let front := (← attributes) ++ (← inner (.pattern .parameter))
  let colon ← mark? ":"
  if colon.isEmpty then return front
  else if atDots (← get) then return front ++ colon ++ (← dots)
  else return front ++ colon ++ (← inner (.type true))

def function (inner : Inner) (site : Site) : Writing (List String × Bool) := do
  let front := (← next) ++ (← next) ++ (← parameters inner)
  let inputs ← groupOf .parenthesis (listedWhole (input inner))
  let rest := (← result inner true) ++ (← conditions inner)
  let body ← block inner
  return (front ++ inputs ++ rest ++ body, site.admits (!body.isEmpty))

def composite (inner : Inner) : Writer := do
  let front := (← next) ++ (← next) ++ (← parameters inner) ++ (← conditions inner)
  return front ++ (← fields inner) ++ (← conditions inner)

def enumeration (inner : Inner) : Writer := do
  let front := (← next) ++ (← next) ++ (← parameters inner) ++ (← conditions inner)
  return front ++ (← groupOf .brace (listedWhole (variant inner)))

def trait (inner : Inner) : Writer := do
  let front := (← next) ++ (← next) ++ (← parameters inner) ++ (← declaredBounds inner)
  let bounds ←
    if atMark "=" (← get) then do pure ((← next) ++ (← inner (.bounds true))) else pure []
  return front ++ bounds ++ (← conditions inner) ++ (← groupOf .brace (inner (.items .trait)))

def opensParameters : List Tree → Bool
  | .leaf (.mark "<") :: .leaf (.mark m) :: _ => m = ">" || m = "#"
  | .leaf (.mark "<") :: .leaf (.word "const") :: _ => true
  | .leaf (.mark "<") :: .leaf (.lifetime _) :: _ => true
  | .leaf (.mark "<") :: .leaf (.word _) :: .leaf (.mark m) :: _ => [":", ",", ">", "="].contains m
  | _ => false

def implementation (inner : Inner) : Writing (List String × Bool) := do
  let word ← next
  let params ← if opensParameters (← get) then parameters inner else pure []
  let constant ← word? "const"
  let front := word ++ params ++ constant ++ (← mark? "!") ++ (← inner (.type true))
  let target ←
    if atWord "for" (← get) then do pure ((← next) ++ (← inner (.type true))) else pure []
  let requirements ← conditions inner
  let content ← groupOf .brace (inner (.items .implementation))
  return (front ++ target ++ requirements ++ content, constant.isEmpty)

def typeName (inner : Inner) (site : Site) : Writing (List String × Bool) := do
  let front := (← next) ++ (← next) ++ (← parameters inner)
  let bounded := atMark ":" (← get)
  let between := (← declaredBounds inner) ++ (← conditions inner)
  let target ←
    if atMark "=" (← get) then do pure ((← next) ++ (← inner (.type true))) else pure []
  return (front ++ between ++ target ++ (← conditions inner),
    site.admits (!target.isEmpty) && (site = .trait || !bounded))

def constantItem (inner : Inner) (site : Site) : Writing (List String × Bool) := do
  let front := (← next) ++ (← word? "mut") ++ (← next)
  let isGeneric := atMark "<" (← get)
  let params ← parameters inner
  let type ← typed inner
  let value ← valued inner
  let isConditional := atWord "where" (← get)
  return (front ++ params ++ type ++ value ++ (← conditions inner),
    site.admits (!value.isEmpty) && !type.isEmpty && !isGeneric && !isConditional)

def opensQualifier : List Tree → Bool
  | .leaf (.word "extern") :: rest => !atWord "crate" rest
  | .leaf (.word "const") :: rest => atWordAmong ["fn", "async", "unsafe", "extern"] rest
  | .leaf (.word w) :: rest =>
    ["default", "async", "unsafe", "safe", "auto"].contains w && !atMacro rest
  | .leaf (.text _) :: _ => true
  | _ => false

def declaredPart (inner : Inner) (site : Site) : Writing (List String × Bool) := do
  let ts ← get
  if atWord "fn" ts then function inner site
  else if atWord "impl" ts then implementation inner
  else if atWord "type" ts then typeName inner site
  else if atWordAmong ["const", "static"] ts then constantItem inner site
  else
    let body ←
      if atWordAmong ["struct", "union"] ts then composite inner
      else if atWord "enum" ts then enumeration inner
      else if atWord "trait" ts then trait inner
      else if atWord "mod" ts then do
        pure ((← next) ++ (← next) ++ (← groupOf .brace (inner (.items .module))))
      else if atWordAmong ["use", "extern"] ts then many (fun ts => !atMark ";" ts) next
      else if atGroup .brace ts then group (inner (.items .foreign))
      else do
        pure ((← many (fun ts => !atMark ";" ts && !opensGroup ts) next) ++ (← group all))
    return (body, true)
where
  opensGroup : List Tree → Bool
    | .group .. :: _ => true
    | _ => false

def declared (inner : Inner) (site : Site) : Writer := do
  let before ← get
  let visible ← visibility
  let qualifiers ← many opensQualifier next
  let plain := visible.isEmpty || !(site = .trait || atWord "impl" (← get))
  let admitted :=
    match site with
    | .trait => !qualifiers.contains "default"
    | .foreign => !qualifiers.contains "safe"
    | _ => true
  let (body, complete) ← declaredPart inner site
  let ws := visible ++ qualifiers ++ body ++ (← mark? ";")
  if plain && admitted && complete then return ws else takenSince before

def itemsWriter (inner : Inner) (site : Site) : Writer :=
  many (fun _ => true) do return (← attributes) ++ (← declared inner site)

def opensDeclaration : List Tree → Bool
  | .leaf (.word w) :: rest =>
    ["pub", "struct", "enum", "fn", "impl", "trait", "type", "mod", "use", "extern"].contains w ||
      (w = "const" && atAnyWord rest && !atWord "move" rest) ||
      (w = "static" && atAnyWord rest && !atWordAmong ["move", "async"] rest) ||
      (w = "unsafe" && atWordAmong ["fn", "impl", "trait", "extern", "mod", "auto"] rest) ||
      (w = "async" && atWordAmong ["fn", "unsafe", "extern"] rest) ||
      (["union", "auto", "macro", "safe"].contains w && atAnyWord rest && !atWord "as" rest) ||
      (w = "macro_rules" && atMark "!" rest)
  | _ => false
where
  atAnyWord : List Tree → Bool
    | .leaf (.word _) :: _ => true
    | _ => false

def binding (inner : Inner) : Writer := do
  let front := (← next) ++ (← inner (.pattern .alternatives)) ++ (← typed inner) ++ (← valued inner)
  if atWord "else" (← get) then return front ++ (← next) ++ (← block inner) else return front

def statement (inner : Inner) : Writer := do
  let attrs ← attributes
  let ts ← get
  if opensDeclaration ts then return attrs ++ (← declared inner .module)
  else
    let body ← if atWord "let" ts then binding inner else inner .step
    return attrs ++ body ++ (← mark? ";")

def statementsWriter (inner : Inner) : Writer := many (fun _ => true) (statement inner)

end RecordSql.Derive.Writer
