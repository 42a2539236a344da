import HeptaBao.Durable.TestBarrier
import HeptaBao.Plugin.Durable

namespace HeptaBao.Plugin

open Wire Std Durable Domain Exec

def leaseL : Id := ⟨[108], by decide⟩

def specL (issuedAt : Tick) : DynamicLeaseSpec := ⟨leaseL, ⟨[111], by decide⟩, ⟨[47, 115], by decide⟩, issuedAt, 10, true⟩

def plainSecret (byte : UInt8) : SecretValue := ⟨[byte], by simp, by simp [maxSecretBytes]⟩

def contextR (requestId : Id) : PluginMutationContext :=
  ⟨⟨[112], by decide⟩, requestId, ⟨List.replicate 32 1, by decide⟩, by decide⟩

def requestA : Id := ⟨[97], by decide⟩
def requestB : Id := ⟨[98], by decide⟩
def plainManifest : PluginManifest := ⟨[.issue, .renew, .revoke], 1024, 1024, []⟩

def answering (answer : Except SandboxFailure SecretValue) : SandboxRunner := ⟨fun _ => .ok (), fun _ _ _ _ => answer⟩

def worldAfter (cap : Nat) (events : List Event) : World := run (step testEnv cap plainManifest) (created plainManifest) events

end HeptaBao.Plugin
