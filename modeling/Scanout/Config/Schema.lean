import Scanout.Config.Sections
import Scanout.Json.Schema
import Scanout.Json.Variant

/-!
# The schemas of the configuration

Each section is a record of its fields, and the configuration is a record of its sections.
-/

namespace Scanout

open Json (Schema Codec)

/-- APIs are read and written by their names. -/
def GraphicsApi.codec : Codec GraphicsApi := .variant GraphicsApi.all GraphicsApi.name

namespace Config

def Video.schema : Schema Video where
  title := "struct VideoConfig"
  default := .default
  fields := [
    ⟨String, "driver", .text, Video.driver, fun x v => { v with driver := x }⟩,
    ⟨GraphicsApi, "api", GraphicsApi.codec, Video.api, fun x v => { v with api := x }⟩,
    ⟨UInt32, "api_major", .word, fun v => v.version.major,
      fun x v => { v with version := ⟨x, v.version.minor⟩ }⟩,
    ⟨UInt32, "api_minor", .word, fun v => v.version.minor,
      fun x v => { v with version := ⟨v.version.major, x⟩ }⟩,
    ⟨Int32, "swap_interval", .integer, Video.swapInterval,
      fun x v => { v with swapInterval := x }⟩,
    ⟨UInt32, "width", .word, Video.width, fun x v => { v with width := x }⟩,
    ⟨UInt32, "height", .word, Video.height, fun x v => { v with height := x }⟩,
    ⟨Bool, "fullscreen", .truth, Video.fullscreen, fun x v => { v with fullscreen := x }⟩,
    ⟨Bool, "core_context", .truth, Video.coreContext, fun x v => { v with coreContext := x }⟩]

def Input.schema : Schema Input where
  title := "struct InputConfig"
  default := .default
  fields := [
    ⟨String, "driver", .text, Input.driver, fun x i => { i with driver := x }⟩,
    ⟨String, "joypad_driver", .text, Input.joypadDriver,
      fun x i => { i with joypadDriver := x }⟩]

def Egl.schema : Schema Egl where
  title := "struct EglConfig"
  default := .default
  fields := [
    ⟨Bool, "opengl", .truth, Egl.openGl, fun x e => { e with openGl := x }⟩,
    ⟨Bool, "opengl_es", .truth, Egl.openGlEs, fun x e => { e with openGlEs := x }⟩,
    ⟨Bool, "openvg", .truth, Egl.openVg, fun x e => { e with openVg := x }⟩,
    ⟨Bool, "khr_create_context", .truth, Egl.createContext,
      fun x e => { e with createContext := x }⟩]

def Demo.schema : Schema Demo where
  title := "struct DemoConfig"
  default := .default
  fields := [
    ⟨Option UInt64, "max_frames", .orNull .longWord, Demo.maxFrames,
      fun x d => { d with maxFrames := x }⟩,
    ⟨UInt64, "frame_interval_ms", .longWord, Demo.frameInterval,
      fun x d => { d with frameInterval := x }⟩]

/-- **The schema of a configuration.** -/
def schema : Schema Config where
  title := "struct Config"
  default := .default
  fields := [
    ⟨Video, "video", Video.schema.codec, Config.video, fun x c => { c with video := x }⟩,
    ⟨Input, "input", Input.schema.codec, Config.input, fun x c => { c with input := x }⟩,
    ⟨Egl, "egl", Egl.schema.codec, Config.egl, fun x c => { c with egl := x }⟩,
    ⟨Demo, "demo", Demo.schema.codec, Config.demo, fun x c => { c with demo := x }⟩]

/-- **The codec of a configuration.** -/
def codec : Codec Config := schema.codec

end Config

end Scanout
