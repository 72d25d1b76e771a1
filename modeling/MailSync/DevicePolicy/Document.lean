import MailSync.CodePage
import MailSync.DocumentError

/-!
# Documents of the policy handshake

The device asks for the policy and gets a temporary key; it acknowledges that key and gets
the final one. A response may order the device to wipe its data.
-/
namespace MailSync.DevicePolicy
open Wbxml (Element)
open CodePage

def policyType : String := "MS-EAS-Provisioning-WBXML"

def statusOk : UInt32 := 1

/-- The policy status of a server that has no policy for the device. -/
def statusNoPolicy : UInt32 := 2

structure Response where
  status : UInt32
  policyStatus : Option UInt32
  key : Option String
  remoteWipe : Bool
deriving Repr, DecidableEq

def document (policy : List Element) : Element :=
  .node Provision.provision [.node Provision.policies [.node Provision.policy policy]]

def request : Element := document [.text Provision.policyType policyType]

def acknowledgement (key : String) (status : UInt32) : Element :=
  document [.text Provision.policyType policyType, .text Provision.policyKey key,
    .number Provision.status status]

def Response.ofDocument (root : Element) : Except DocumentError Response := do
  root.expectRoot Provision.provision "Provision"
  let status ← root.requireNumber Provision.status "Provision" "Status"
  let policy := root.path? [Provision.policies, Provision.policy]
  .ok ⟨status, policy.bind (·.childNumber? Provision.status),
    policy.bind (·.childText? Provision.policyKey), root.has Provision.remoteWipe⟩

/-- A response as a scripted server gives it: the policy itself is always accepted. -/
def responseDocument (status : UInt32) (key : Option String) : Element :=
  .node Provision.provision [.number Provision.status status,
    .node Provision.policies [.node Provision.policy
      ([.text Provision.policyType policyType, .text Provision.status "1"] ++
        (key.map (.text Provision.policyKey)).toList)]]

end MailSync.DevicePolicy
