import ShaderWeave.Template.Marker
import ShaderWeave.Text.Lines

/-!
# The base template

The shader that every composition starts from, unless it brings a template of its own. It has each
marker once.
-/

namespace ShaderWeave.Template

def baseSegments : List Segment := [
  .literal (Text.unlines [
    "// ============================================================================",
    "// Myth shader variant base template",
    "//",
    "// Group 0: frame globals      Group 1: per-object uniforms",
    "// Group 2: per-mesh textures  Group 3: shared environment",
    "// ============================================================================",
    "",
    "struct GlobalUniforms \x7b",
    "    view_projection: mat4x4<f32>,",
    "    camera_position: vec3<f32>,",
    "    time: f32,",
    "    light_direction: vec3<f32>,",
    "    light_intensity: f32,",
    "    light_color: vec3<f32>,",
    "    ambient_intensity: f32,",
    "\x7d;",
    "@group(0) @binding(0) var<uniform> u_global: GlobalUniforms;",
    "",
    "struct ObjectUniforms \x7b",
    "    model: mat4x4<f32>,",
    "    normal_matrix: mat4x4<f32>,",
    "    base_color: vec4<f32>,",
    "    emissive: vec3<f32>,",
    "    metallic: f32,",
    "    roughness: f32,",
    ""]),
  .marker .perObjectUniforms,
  .literal (Text.unlines [
    "",
    "\x7d;",
    "@group(1) @binding(0) var<uniform> u_object: ObjectUniforms;",
    "",
    ""]),
  .marker .textureBindings,
  .literal (Text.unlines [
    "",
    "",
    ""]),
  .marker .environmentBindings,
  .literal (Text.unlines [
    "",
    "",
    "struct VertexInput \x7b",
    "    @location(0) position: vec3<f32>,",
    "    @location(1) normal: vec3<f32>,",
    "    @location(2) uv: vec2<f32>,",
    "\x7d;",
    "",
    "struct VertexOutput \x7b",
    "    @builtin(position) clip_position: vec4<f32>,",
    "    @location(0) world_position: vec3<f32>,",
    "    @location(1) world_normal: vec3<f32>,",
    "    @location(2) uv: vec2<f32>,",
    ""]),
  .marker .varyings,
  .literal (Text.unlines [
    "",
    "\x7d;",
    "",
    "const PI: f32 = 3.14159265359;",
    "",
    "fn distribution_ggx(n_dot_h: f32, roughness: f32) -> f32 \x7b",
    "    let a = roughness * roughness;",
    "    let a2 = a * a;",
    "    let d = n_dot_h * n_dot_h * (a2 - 1.0) + 1.0;",
    "    return a2 / max(PI * d * d, 1e-6);",
    "\x7d",
    "",
    "fn geometry_smith(n_dot_v: f32, n_dot_l: f32, roughness: f32) -> f32 \x7b",
    "    let k = (roughness + 1.0) * (roughness + 1.0) / 8.0;",
    "    let gv = n_dot_v / (n_dot_v * (1.0 - k) + k);",
    "    let gl = n_dot_l / (n_dot_l * (1.0 - k) + k);",
    "    return gv * gl;",
    "\x7d",
    "",
    "fn fresnel_schlick(cos_theta: f32, f0: vec3<f32>) -> vec3<f32> \x7b",
    "    return f0 + (vec3<f32>(1.0) - f0) * pow(clamp(1.0 - cos_theta, 0.0, 1.0), 5.0);",
    "\x7d",
    "",
    "fn shade_direct(N: vec3<f32>, V: vec3<f32>, L: vec3<f32>, albedo: vec3<f32>, metallic: f32, roughness: f32) -> vec3<f32> \x7b",
    "    let H = normalize(V + L);",
    "    let n_dot_l = max(dot(N, L), 0.0);",
    "    let n_dot_v = max(dot(N, V), 1e-4);",
    "    let n_dot_h = max(dot(N, H), 0.0);",
    "    let f0 = mix(vec3<f32>(0.04), albedo, metallic);",
    "    let F = fresnel_schlick(max(dot(H, V), 0.0), f0);",
    "    let specular = distribution_ggx(n_dot_h, roughness) * geometry_smith(n_dot_v, n_dot_l, roughness) * F",
    "        / (4.0 * n_dot_v * max(n_dot_l, 1e-4));",
    "    let kd = (vec3<f32>(1.0) - F) * (1.0 - metallic);",
    "    return (kd * albedo / PI + specular) * n_dot_l;",
    "\x7d",
    "",
    ""]),
  .marker .functions,
  .literal (Text.unlines [
    "",
    "",
    "@vertex",
    "fn vs_main(in: VertexInput) -> VertexOutput \x7b",
    "    var out: VertexOutput;",
    "    var local_position = in.position;",
    "    var local_normal = in.normal;",
    "",
    "    "]),
  .marker .vertexInject,
  .literal (Text.unlines [
    "",
    "",
    "    let world_position = u_object.model * vec4<f32>(local_position, 1.0);",
    "    out.clip_position = u_global.view_projection * world_position;",
    "    out.world_position = world_position.xyz;",
    "    out.world_normal = normalize((u_object.normal_matrix * vec4<f32>(local_normal, 0.0)).xyz);",
    "    out.uv = in.uv;",
    "    return out;",
    "\x7d",
    "",
    "@fragment",
    "fn fs_main(in: VertexOutput) -> @location(0) vec4<f32> \x7b",
    "    var albedo = u_object.base_color.rgb;",
    "    var alpha = u_object.base_color.a;",
    "    var metallic = u_object.metallic;",
    "    var roughness = u_object.roughness;",
    "    var ao = 1.0;",
    "    var emissive = u_object.emissive;",
    "    var N = normalize(in.world_normal);",
    "",
    "    "]),
  .marker .fragmentTextureSampling,
  .literal (Text.unlines [
    "",
    "",
    "    let V = normalize(u_global.camera_position - in.world_position);",
    "    let L = normalize(-u_global.light_direction);",
    "    var shadow = 1.0;",
    "",
    "    "]),
  .marker .fragmentShadow,
  .literal (Text.unlines [
    "",
    "",
    "    "]),
  .marker .fragmentPreLighting,
  .literal (Text.unlines [
    "",
    "",
    "    let direct = shade_direct(N, V, L, albedo, metallic, roughness)",
    "        * u_global.light_color * u_global.light_intensity * shadow;",
    "    var ambient = albedo * u_global.ambient_intensity * ao;",
    "",
    "    "]),
  .marker .fragmentAmbient,
  .literal (Text.unlines [
    "",
    "",
    "    var color = direct + ambient + emissive;",
    "",
    "    "]),
  .marker .fragmentPost,
  .literal (Text.unlines [
    "",
    "",
    "    return vec4<f32>(color, alpha);",
    "\x7d",
    ""])]

/-- The text of the base template. -/
def baseText : String := Segment.join baseSegments

end ShaderWeave.Template
