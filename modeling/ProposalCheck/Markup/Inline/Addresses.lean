import ProposalCheck.Markup.Autolink
import ProposalCheck.Markup.Html
import ProposalCheck.Markup.Inline.Delimiter
import ProposalCheck.Markup.Target

/-!
# Bare addresses among events

The texts between the events of a text may contain addresses, which become links. Texts inside
links, those of Markdown and those of HTML, are left alone.
-/

namespace ProposalCheck.Markup.Inline

/-- The scheme of mail addresses at the start of a text, in any case. -/
private def mailScheme : Pattern := .ofText "(?i)^mailto:"

/-- Whether a mail address starts with its scheme. -/
def hasMailScheme (url : List Char) : Bool :=
  (mailScheme.find? url.toArray).isSome

/-- The text that a link from a bare address shows. A mail address is taken apart as one only if it
starts with its scheme; without it even an encoded host stays as it is written. -/
def shownAddress (url : List Char) (found : Autolink.Found) : List Char :=
  if found.scheme == "mailto:" && hasMailScheme url then
    let shown := Url.display ("mailto:".toList ++ url)
    if Text.startsWith "mailto:".toList shown then shown.drop 7 else shown
  else Url.display url

/-- The address to which a bare address leads. -/
def addressTarget (url : List Char) (found : Autolink.Found) : List Char :=
  if found.scheme == "mailto:" && !hasMailScheme url then "mailto:".toList ++ url else url

/-- The events of a text from position `p` on, with links for the addresses found in it. -/
def linkAddresses (text : Array Char) : Nat → List Autolink.Found → List Event
  | p, [] => if p < text.size then [.text (String.ofList (slice text p text.size))] else []
  | p, f :: fs =>
    let url := slice text f.start f.stop
    match allowedTarget? (addressTarget url f) with
    | none => linkAddresses text p fs
    | some target =>
      let link := Construct.link (String.ofList target) none
      (if p < f.start then [.text (String.ofList (slice text p f.start))] else [])
        ++ [.opening link none, .text (String.ofList (shownAddress url f)), .closing link]
        ++ linkAddresses text f.stop fs

/-- Whether an event is a character that was written as an escape or by its name. -/
def isSpecial : Event → Bool
  | .leaf (.special _) _ _ => true
  | _ => false

/-- The events that replace an event: those of a text with the addresses in it. An address right
after a special character is none. -/
def replaceText (before : Option Event) (e : Event) : List Event :=
  match e.text? with
  | none => [e]
  | some s =>
    let text := s.toList.toArray
    let found := Autolink.findAll text
    let found := match found, before with
      | f :: fs, some b => if f.start == 0 && isSpecial b then fs else f :: fs
      | fs, _ => fs
    if found.isEmpty then [e] else linkAddresses text 0 found

/-- The depth at which each event stands. -/
def depths (es : List Event) : Array Nat :=
  (es.foldl (fun (ds, depth) e =>
    match e with
    | .opening _ _ => (ds.push depth, depth + 1)
    | .closing _ => (ds.push (depth - 1), depth - 1)
    | .leaf _ _ _ => (ds.push depth, depth)) ((#[] : Array Nat), 0)).1

/-- Replaces the addresses in the events below an index, last one first. `skipping` is the depth of
a link that is left alone, `html` the number of links of HTML around the events. -/
def replaceBelow (es : Array Event) (ds : Array Nat) : Nat → Option Nat → Nat → List Event → List Event
  | 0, _, _, done => done
  | i + 1, skipping, html, done =>
    match es[i]? with
    | none => replaceBelow es ds i skipping html done
    | some e =>
      match skipping, e with
      | some _, .opening (.link _ _) _ => replaceBelow es ds i none html (e :: done)
      | some depth, _ =>
        let skipping := if ds[i]? == some depth then none else skipping
        replaceBelow es ds i skipping html (e :: done)
      | none, .closing (.link _ _) => replaceBelow es ds i ds[i]? html (e :: done)
      | none, .leaf (.html s) _ _ =>
        let chars := s.toList.toArray
        let html := if (Html.linkOpen.find? chars).isSome then html - 1 else html
        let html := if (Html.linkClose.find? chars).isSome then html + 1 else html
        replaceBelow es ds i none html (e :: done)
      | none, _ =>
        let before := if i == 0 then none else es[i - 1]?
        let new := if html == 0 then replaceText before e else [e]
        replaceBelow es ds i none html (new ++ done)

/-- The events of a text with links for the addresses in it. -/
def replaceAddresses (content : String) (es : Array Event) : Array Event :=
  if Autolink.mayContain content.toList.toArray then
    (replaceBelow es (depths es.toList) es.size none 0 []).toArray
  else es

end ProposalCheck.Markup.Inline
