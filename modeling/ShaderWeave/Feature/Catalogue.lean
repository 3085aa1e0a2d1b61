import ShaderWeave.Environment.Slot
import ShaderWeave.Feature.Registry

/-!
# Built-in features

The catalogue is plain data. A composition treats its features like any others.

| Feature    | Stage    | After     | What it brings                                |
|------------|----------|-----------|-----------------------------------------------|
| `textured` | fragment |           | a set of surface textures and their sampling  |
| `shadow`   | fragment |           | cascaded shadow maps with a single-map case   |
| `ibl`      | fragment |           | ambient light from images                     |
| `wind`     | vertex   |           | sway of vegetation                            |
| `wetness`  | fragment |           | darkened, glossy surfaces                     |
| `snow`     | fragment | `wetness` | snow on faces that look up                    |
| `ssr`      | fragment | `ibl`     | reflections in screen space                   |
| `probes`   | fragment | `ibl`     | reflections from local probes                 |
-/

namespace ShaderWeave.Catalogue

/-! ## Sources -/

def texturedFunctions : String := Text.unlines [
  "fn perturb_normal(N: vec3<f32>, world_position: vec3<f32>, uv: vec2<f32>, tangent_normal: vec3<f32>) -> vec3<f32> \x7b",
  "    let dp1 = dpdx(world_position);",
  "    let dp2 = dpdy(world_position);",
  "    let duv1 = dpdx(uv);",
  "    let duv2 = dpdy(uv);",
  "    let dp2perp = cross(dp2, N);",
  "    let dp1perp = cross(N, dp1);",
  "    let T = dp2perp * duv1.x + dp1perp * duv2.x;",
  "    let B = dp2perp * duv1.y + dp1perp * duv2.y;",
  "    let inv_max = inverseSqrt(max(max(dot(T, T), dot(B, B)), 1e-8));",
  "    let tbn = mat3x3<f32>(T * inv_max, B * inv_max, N);",
  "    return normalize(tbn * (tangent_normal * 2.0 - vec3<f32>(1.0)));",
  "\x7d"]

def texturedSampling : String := Text.unlines [
  "let base_color_sample = textureSample(baseColorTexture, baseColorSampler, in.uv);",
  "albedo = albedo * base_color_sample.rgb;",
  "alpha = alpha * base_color_sample.a;",
  "let metallic_roughness = textureSample(metallicRoughnessTexture, metallicRoughnessSampler, in.uv);",
  "roughness = roughness * metallic_roughness.g;",
  "metallic = metallic * metallic_roughness.b;",
  "ao = textureSample(occlusionTexture, occlusionSampler, in.uv).r;",
  "emissive = emissive * textureSample(emissiveTexture, emissiveSampler, in.uv).rgb;",
  "N = perturb_normal(N, in.world_position, in.uv, textureSample(normalTexture, normalSampler, in.uv).xyz);"]

def shadowFunctions : String := Text.unlines [
  "fn select_cascade(view_distance: f32) -> u32 \x7b",
  "    var cascade = 0u;",
  "    for (var i = 0u; i < min(cascadeUniforms.cascade_count, 4u); i = i + 1u) \x7b",
  "        if (view_distance > cascadeUniforms.split_depths[i]) \x7b",
  "            cascade = i + 1u;",
  "        \x7d",
  "    \x7d",
  "    return min(cascade, max(cascadeUniforms.cascade_count, 1u) - 1u);",
  "\x7d",
  "",
  "fn sample_shadow(world_position: vec3<f32>, N: vec3<f32>, L: vec3<f32>) -> f32 \x7b",
  "    let cascade = select_cascade(distance(u_global.camera_position, world_position));",
  "    let biased_position = world_position + N * cascadeUniforms.normal_bias;",
  "    let light_space = cascadeUniforms.light_view_projection[cascade] * vec4<f32>(biased_position, 1.0);",
  "    let ndc = light_space.xyz / light_space.w;",
  "    let uv = ndc.xy * vec2<f32>(0.5, -0.5) + vec2<f32>(0.5);",
  "    if (any(uv < vec2<f32>(0.0)) || any(uv > vec2<f32>(1.0)) || ndc.z > 1.0) \x7b",
  "        return 1.0;",
  "    \x7d",
  "    let bias = max(cascadeUniforms.depth_bias * (1.0 - dot(N, L)), cascadeUniforms.depth_bias * 0.1);",
  "    let depth = ndc.z - bias;",
  "    if (cascadeUniforms.cascade_count == 0u) \x7b",
  "        return textureSampleCompareLevel(shadowMap, shadowSampler, uv, depth);",
  "    \x7d",
  "    let texel = 1.0 / vec2<f32>(textureDimensions(cascadedShadowMap));",
  "    var visibility = 0.0;",
  "    for (var x = -1; x <= 1; x = x + 1) \x7b",
  "        for (var y = -1; y <= 1; y = y + 1) \x7b",
  "            let offset = vec2<f32>(f32(x), f32(y)) * texel;",
  "            visibility = visibility + textureSampleCompareLevel(cascadedShadowMap, shadowSampler, uv + offset, i32(cascade), depth);",
  "        \x7d",
  "    \x7d",
  "    return visibility / 9.0;",
  "\x7d"]

def iblFunctions : String := Text.unlines [
  "fn ibl_ambient(N: vec3<f32>, V: vec3<f32>, albedo: vec3<f32>, metallic: f32, roughness: f32) -> vec3<f32> \x7b",
  "    let n_dot_v = max(dot(N, V), 1e-4);",
  "    let f0 = mix(vec3<f32>(0.04), albedo, metallic);",
  "    let F = fresnel_schlick(n_dot_v, f0);",
  "    let kd = (vec3<f32>(1.0) - F) * (1.0 - metallic);",
  "    let irradiance = textureSampleLevel(diffuseCubemap, cubemapSampler, N, 0.0).rgb;",
  "    let R = reflect(-V, N);",
  "    let max_lod = f32(textureNumLevels(specularCubemap) - 1u);",
  "    let prefiltered = textureSampleLevel(specularCubemap, cubemapSampler, R, roughness * max_lod).rgb;",
  "    let brdf = textureSampleLevel(brdfLut, brdfSampler, vec2<f32>(n_dot_v, roughness), 0.0).rg;",
  "    return kd * irradiance * albedo + prefiltered * (F * brdf.x + brdf.y);",
  "\x7d"]

def windFunctions : String := Text.unlines [
  "fn wind_offset(position: vec3<f32>, height_weight: f32) -> vec3<f32> \x7b",
  "    let phase = dot(position, u_object.windDirection) * u_object.windFrequency + u_global.time * u_object.windSpeed;",
  "    let gust = sin(phase * 0.37 + u_global.time * 1.3) * u_object.windGust;",
  "    let sway = (sin(phase) + gust) * u_object.windStrength * height_weight * u_object.windFlexibility;",
  "    return u_object.windDirection * sway;",
  "\x7d"]

def windVertex : String := Text.unlines [
  "let wind_displacement = wind_offset(local_position, clamp(1.0 - in.uv.y, 0.0, 1.0));",
  "local_position = local_position + wind_displacement;",
  "out.windSway = length(wind_displacement);"]

def wetnessFunctions : String := Text.unlines [
  "fn wetness_amount(uv: vec2<f32>) -> f32 \x7b",
  "    let mask = textureSample(wetnessMaskTexture, wetnessMaskSampler, uv).r;",
  "    return clamp(u_object.wetness * mask, 0.0, 1.0);",
  "\x7d"]

def wetnessPreLighting : String := Text.unlines [
  "let wet = wetness_amount(in.uv);",
  "albedo = albedo * mix(1.0, u_object.wetnessDarkening, wet);",
  "roughness = mix(roughness, 0.08, wet);"]

def snowFunctions : String := Text.unlines [
  "fn snow_coverage(N: vec3<f32>) -> f32 \x7b",
  "    return smoothstep(1.0 - u_object.snowAmount, 1.0, max(N.y, 0.0));",
  "\x7d"]

def snowPreLighting : String := Text.unlines [
  "let snow = snow_coverage(N);",
  "albedo = mix(albedo, u_object.snowColor, snow);",
  "roughness = mix(roughness, 0.9, snow);",
  "metallic = metallic * (1.0 - snow);"]

def ssrFunctions : String := Text.unlines [
  "fn apply_ssr(color: vec3<f32>, frag_coord: vec2<f32>, roughness: f32) -> vec3<f32> \x7b",
  "    let size = vec2<f32>(textureDimensions(ssrTexture));",
  "    let reflection = textureSampleLevel(ssrTexture, ssrSampler, frag_coord / size, 0.0);",
  "    let weight = reflection.a * (1.0 - roughness) * u_object.ssrIntensity;",
  "    return mix(color, reflection.rgb, clamp(weight, 0.0, 1.0));",
  "\x7d"]

def probeFunctions : String := Text.unlines [
  "fn probe_reflection(N: vec3<f32>, V: vec3<f32>, roughness: f32) -> vec3<f32> \x7b",
  "    let R = reflect(-V, N);",
  "    let lod = roughness * f32(textureNumLevels(probeCubemap) - 1u);",
  "    return textureSampleLevel(probeCubemap, cubemapSampler, R, lod).rgb;",
  "\x7d"]

def probePost : String := Text.unlines [
  "let probe_f0 = mix(vec3<f32>(0.04), albedo, metallic);",
  "color = color + probe_reflection(N, V, roughness) * probe_f0 * u_object.probeBlend * ao;"]

/-! ## Requirements -/

/-- A field of the object uniforms that a component supplies. -/
def field (provider name : String) (type : Wgsl.Numeric) : Requirement :=
  (Requirement.perObject name (.numeric type)).providedBy provider

/-- A filterable texture of two dimensions that a component supplies. -/
def map (provider name : String) : Requirement :=
  (Requirement.texture name .float .d2).providedBy provider

def mapSampler (provider name : String) : Requirement :=
  (Requirement.sampler name .filtering).providedBy provider

/-- Slots of the environment table by name, with the kinds they have there. -/
def slots (names : List String) : List Requirement :=
  (names.filterMap Slot.find?).map fun s => .environment s.name s.kind

/-! ## Features -/

/-- Owns the fragment slot for texture sampling. -/
def textured : Feature where
  id := "textured"
  stage := .fragment
  resources := [
    map "material" "baseColorTexture", mapSampler "material" "baseColorSampler",
    map "material" "normalTexture", mapSampler "material" "normalSampler",
    map "material" "metallicRoughnessTexture", mapSampler "material" "metallicRoughnessSampler",
    map "material" "occlusionTexture", mapSampler "material" "occlusionSampler",
    map "material" "emissiveTexture", mapSampler "material" "emissiveSampler"]
  functions := texturedFunctions
  fragment := some texturedSampling

/-- Owns the fragment slot for shadow. -/
def shadow : Feature where
  id := "shadow"
  stage := .fragment
  resources := slots ["shadowMap", "shadowSampler", "cascadedShadowMap", "cascadeUniforms"]
  functions := shadowFunctions
  fragment := some "shadow = sample_shadow(in.world_position, N, L);"

/-- Owns the fragment slot for ambient light. -/
def ibl : Feature where
  id := "ibl"
  stage := .fragment
  resources :=
    slots ["diffuseCubemap", "specularCubemap", "brdfLut", "cubemapSampler", "brdfSampler"]
  functions := iblFunctions
  fragment := some ("ambient = ibl_ambient(N, V, albedo, metallic, roughness) * ao * " ++
    "u_global.ambient_intensity;")

def wind : Feature where
  id := "wind"
  stage := .vertex
  resources := [
    field "wind" "windDirection" .vec3, field "wind" "windStrength" .f32,
    field "wind" "windSpeed" .f32, field "wind" "windFrequency" .f32,
    field "wind" "windGust" .f32, field "wind" "windFlexibility" .f32]
  functions := windFunctions
  vertex := some windVertex
  varyings := [⟨"windSway", .numeric .f32⟩]

def wetness : Feature where
  id := "wetness"
  stage := .fragment
  resources := [
    field "weather" "wetness" .f32, field "weather" "wetnessDarkening" .f32,
    map "weather" "wetnessMaskTexture", mapSampler "weather" "wetnessMaskSampler"]
  functions := wetnessFunctions
  preLighting := some wetnessPreLighting

def snow : Feature where
  id := "snow"
  stage := .fragment
  resources := [field "weather" "snowAmount" .f32, field "weather" "snowColor" .vec3]
  functions := snowFunctions
  preLighting := some snowPreLighting
  dependencies := ["wetness"]

def ssr : Feature where
  id := "ssr"
  stage := .fragment
  resources := field "reflections" "ssrIntensity" .f32 :: slots ["ssrTexture", "ssrSampler"]
  functions := ssrFunctions
  post := some "color = apply_ssr(color, in.clip_position.xy, roughness);"
  dependencies := ["ibl"]

def probes : Feature where
  id := "probes"
  stage := .fragment
  resources := field "reflections" "probeBlend" .f32 :: slots ["probeCubemap", "cubemapSampler"]
  functions := probeFunctions
  post := some probePost
  dependencies := ["ibl"]

def all : List Feature := [textured, shadow, ibl, wind, wetness, snow, ssr, probes]

end ShaderWeave.Catalogue

namespace ShaderWeave

/-- The registry with the catalogue in it. -/
def Registry.builtin : Registry :=
  Catalogue.all.foldl (fun r f => (r.register f).state) Registry.empty

end ShaderWeave
