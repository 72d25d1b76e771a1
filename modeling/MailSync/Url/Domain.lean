import MailSync.Text.Utf8
import MailSync.Url.Label

/-!
# Domain names

A domain as addresses carry it: its labels in ASCII, with dots between them. Where one label
runs from right to left, each of them must keep to one direction.
-/
namespace MailSync.Url.Domain

/-- The labels of a domain in one form. -/
def labels? (cs : List Char) : Option (List Label) :=
  ((String.ofList (Folding.foldText cs)).splitOn ".").mapM fun label => Label.ofText? label.toList

/-- A domain in ASCII, from its octets. None if it cannot be one. -/
def ofBytes? (bs : Bytes) : Option String := do
  let text ← Text.ofBytes? bs
  let labels ← labels? text.toList
  if labels.any Label.isMixed && !labels.all Label.isOneWay then none
  else some (".".intercalate (labels.map fun l => String.ofList l.ascii))

end MailSync.Url.Domain
