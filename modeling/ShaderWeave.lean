import ShaderWeave.Pipeline.Store
import ShaderWeave.Proofs.Drawing.Supply
import ShaderWeave.Proofs.Environment.Ledger
import ShaderWeave.Proofs.Feature.Expansion
import ShaderWeave.Proofs.Feature.Outcome
import ShaderWeave.Proofs.Feature.Search
import ShaderWeave.Proofs.Pipeline.Coherence
import ShaderWeave.Proofs.Pipeline.Containment
import ShaderWeave.Proofs.Pipeline.Coverage
import ShaderWeave.Proofs.Pipeline.Environment
import ShaderWeave.Proofs.Pipeline.Failure
import ShaderWeave.Proofs.Pipeline.History
import ShaderWeave.Proofs.Pipeline.Layouts
import ShaderWeave.Proofs.Pipeline.Modules
import ShaderWeave.Proofs.Pipeline.Registration
import ShaderWeave.Proofs.Pipeline.Request
import ShaderWeave.Proofs.Pipeline.Run
import ShaderWeave.Proofs.Pipeline.Stability
import ShaderWeave.Proofs.Shader.Compatibility
import ShaderWeave.Proofs.Shader.Narrowing
import ShaderWeave.Proofs.Variant.Lookup
import ShaderWeave.Proofs.Variant.Modules
import ShaderWeave.Proofs.Variant.Registration
import ShaderWeave.Proofs.Variant.Sharing
import ShaderWeave.Proofs.Shader.Dependence
import ShaderWeave.Proofs.Shader.FragmentSlots
import ShaderWeave.Proofs.Shader.Textures
import ShaderWeave.Proofs.Shader.EnvironmentBindings
import ShaderWeave.Proofs.Shader.ResourceNames
import ShaderWeave.Proofs.Shader.VertexOutput
import ShaderWeave.Proofs.Shader.ObjectUniforms
import ShaderWeave.Proofs.Shader.Growth
import ShaderWeave.Proofs.Shader.Conflicts
import ShaderWeave.Proofs.Shader.Bodies
import ShaderWeave.Proofs.Shader.Varyings
