import MailSync.Text.Blank
import MailSync.Text.Lines
import MailSync.Text.Utf8

/-!
# Header fields of outgoing mail

Outgoing mail is submitted as it stands. Only its Message-ID is looked up, to name the mail
in reports; the header ends at the first empty line.
-/
namespace MailSync.Submission

/-- A field name as it is compared: without blanks around it, ASCII letters in lower case. -/
def fieldName (cs : List Char) : List Char := (Text.trim cs).map Char.toLower

/-- The value of the first header field with a name, given in lower case. -/
def field? (name : List Char) : List (List Char) → Option (List Char)
  | [] => none
  | line :: rest =>
    if line = [] then none
    else if ':' ∈ line ∧ fieldName (line.takeWhile (· ≠ ':')) = name then
      some (Text.trim ((line.dropWhile (· ≠ ':')).drop 1))
    else field? name rest

def messageId? (mime : Bytes) : Option String :=
  (field? "message-id".toList (Text.lines (Text.lenient mime))).map String.ofList

end MailSync.Submission
