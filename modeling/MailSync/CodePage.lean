import MailSync.Wbxml.Element

/-!
# Code pages

The tags that the client reads or writes, by page. Tags of these pages that no document of
the client uses are not listed.
-/
namespace MailSync.CodePage
open Wbxml (Tag)

namespace AirSync

def sync : Tag := ⟨0, 0x05⟩
def responses : Tag := ⟨0, 0x06⟩
def add : Tag := ⟨0, 0x07⟩
def change : Tag := ⟨0, 0x08⟩
def delete : Tag := ⟨0, 0x09⟩
def fetch : Tag := ⟨0, 0x0A⟩
def syncKey : Tag := ⟨0, 0x0B⟩
def serverId : Tag := ⟨0, 0x0D⟩
def status : Tag := ⟨0, 0x0E⟩
def collection : Tag := ⟨0, 0x0F⟩
def collectionId : Tag := ⟨0, 0x12⟩
def getChanges : Tag := ⟨0, 0x13⟩
def moreAvailable : Tag := ⟨0, 0x14⟩
def windowSize : Tag := ⟨0, 0x15⟩
def commands : Tag := ⟨0, 0x16⟩
def options : Tag := ⟨0, 0x17⟩
def filterType : Tag := ⟨0, 0x18⟩
def collections : Tag := ⟨0, 0x1C⟩
def applicationData : Tag := ⟨0, 0x1D⟩
def deletesAsMoves : Tag := ⟨0, 0x1E⟩
def softDelete : Tag := ⟨0, 0x21⟩
def mimeSupport : Tag := ⟨0, 0x22⟩

end AirSync

namespace Email

def dateReceived : Tag := ⟨2, 0x0F⟩
def messageClass : Tag := ⟨2, 0x13⟩
def subject : Tag := ⟨2, 0x14⟩
def read : Tag := ⟨2, 0x15⟩
def recipients : Tag := ⟨2, 0x16⟩
def cc : Tag := ⟨2, 0x17⟩
def sender : Tag := ⟨2, 0x18⟩
def replyTo : Tag := ⟨2, 0x19⟩
def threadTopic : Tag := ⟨2, 0x35⟩
def mimeData : Tag := ⟨2, 0x36⟩
def mimeTruncated : Tag := ⟨2, 0x37⟩
def flag : Tag := ⟨2, 0x3A⟩
def flagStatus : Tag := ⟨2, 0x3B⟩
def flagType : Tag := ⟨2, 0x3D⟩
def lastVerbExecuted : Tag := ⟨22, 0x0B⟩

end Email

namespace Body

def preference : Tag := ⟨17, 0x05⟩
def type : Tag := ⟨17, 0x06⟩
def truncationSize : Tag := ⟨17, 0x07⟩
def body : Tag := ⟨17, 0x0A⟩
def data : Tag := ⟨17, 0x0B⟩
def truncated : Tag := ⟨17, 0x0D⟩

end Body

namespace Moves

def moveItems : Tag := ⟨5, 0x05⟩
def move : Tag := ⟨5, 0x06⟩
def sourceMessage : Tag := ⟨5, 0x07⟩
def sourceFolder : Tag := ⟨5, 0x08⟩
def targetFolder : Tag := ⟨5, 0x09⟩
def response : Tag := ⟨5, 0x0A⟩
def status : Tag := ⟨5, 0x0B⟩
def targetMessage : Tag := ⟨5, 0x0C⟩

end Moves

namespace FolderHierarchy

def displayName : Tag := ⟨7, 0x07⟩
def serverId : Tag := ⟨7, 0x08⟩
def parentId : Tag := ⟨7, 0x09⟩
def type : Tag := ⟨7, 0x0A⟩
def status : Tag := ⟨7, 0x0C⟩
def changes : Tag := ⟨7, 0x0E⟩
def add : Tag := ⟨7, 0x0F⟩
def delete : Tag := ⟨7, 0x10⟩
def update : Tag := ⟨7, 0x11⟩
def syncKey : Tag := ⟨7, 0x12⟩
def folderSync : Tag := ⟨7, 0x16⟩
def count : Tag := ⟨7, 0x17⟩

end FolderHierarchy

namespace Provision

def provision : Tag := ⟨14, 0x05⟩
def policies : Tag := ⟨14, 0x06⟩
def policy : Tag := ⟨14, 0x07⟩
def policyType : Tag := ⟨14, 0x08⟩
def policyKey : Tag := ⟨14, 0x09⟩
def status : Tag := ⟨14, 0x0B⟩
def remoteWipe : Tag := ⟨14, 0x0C⟩

end Provision

namespace Compose

def sendMail : Tag := ⟨21, 0x05⟩
def saveInSentItems : Tag := ⟨21, 0x08⟩
def mime : Tag := ⟨21, 0x10⟩
def clientId : Tag := ⟨21, 0x11⟩
def status : Tag := ⟨21, 0x12⟩

end Compose
end MailSync.CodePage
