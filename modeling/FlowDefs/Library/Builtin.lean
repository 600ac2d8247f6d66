import FlowDefs.Library.Catalog
set_option autoImplicit false

namespace FlowDefs

-- The types of React. Components and elements have Flow types of their own; the other types without
-- a Flow counterpart come from a module of substitutes.
namespace React

def substitute (name : String) : Rule :=
  .substitute ⟨name, "$tsflower_subst$React$" ++ name, "tsflower/subst/react"⟩

def substituted : List String := [
  "JSXElementConstructor", "RefObject", "RefCallback", "Ref", "LegacyRef", "ComponentState",
  "RefAttributes", "CElement", "ComponentElement", "ReactNode", "ProviderProps", "ConsumerProps",
  "NamedExoticComponent", "Provider", "Consumer", "Context", "FunctionComponent",
  "ForwardRefExoticComponent", "PropsWithoutRef", "PropsWithChildren", "ComponentProps",
  "MemoExoticComponent", "MutableRefObject", "MouseEvent"]

def expansions : Table :=
  (Table.empty.withRule "Component" (.expand .component)).withRule "ReactElement"
    (.expand .reactElement)

def jsx : Table := Table.empty.withRule "Element" (substitute "JSX$Element")

def table : Table :=
  (substituted.foldl (fun t name => t.withRule name (substitute name)) expansions).withNamespace
    "JSX" jsx

def library : Library where
  name := "react"
  modules := ["react"]
  namespaces := ["React"]
  table := table
  globals := Table.empty.withNamespace "JSX" jsx

end React

namespace ReactNative

-- The substitute of a type; members of a namespace keep it in their local name.
def substitute (space name : String) : Rule :=
  .substitute ⟨name, "$tsflower_subst$RN$" ++ space ++ name, "tsflower/subst/react-native"⟩

def substituted : List String := [
  "StyleProp", "ColorValue", "ViewStyle", "TextStyle", "ImageStyle", "GestureResponderEvent",
  "LayoutChangeEvent", "NativeSyntheticEvent", "EmitterSubscription", "EventEmitter",
  "NativeEventEmitter", "StatusBarAnimation"]

-- Each component has a type of its properties.
def components : List String := [
  "DrawerLayoutAndroid", "FlatList", "Pressable", "ScrollView", "Switch", "TextInput", "Text",
  "TouchableHighlight", "TouchableNativeFeedback", "TouchableOpacity",
  "TouchableWithoutFeedback", "View"]

def animated : List String := [
  "AnimatedAddition", "AnimatedInterpolation", "AnimationConfig", "DecayAnimationConfig",
  "SpringAnimationConfig", "TimingAnimationConfig", "WithAnimatedValue"]

def names : List String := substituted ++ components.flatMap fun name => [name, name ++ "Props"]

def withSubstitutes (space : String) (names : List String) (t : Table) : Table :=
  names.foldl (fun t name => t.withRule name (substitute space name)) t

def table : Table :=
  (withSubstitutes "" names .empty).withNamespace "Animated"
    (withSubstitutes "Animated$" animated .empty)

def library : Library where
  name := "react-native"
  modules := ["react-native"]
  namespaces := []
  table := table
  globals := .empty

end ReactNative

namespace Catalog

def builtinLibraries : List Library := [React.library, ReactNative.library]

def builtin : Catalog := ⟨builtinLibraries⟩

end Catalog

-- The element at a place, and the others with the last one moved there.
def swapRemove {α : Type} (xs : List α) (i : Fin xs.length) : α × List α :=
  (xs[i], (xs.set i (xs.getLast (List.ne_nil_of_length_pos i.pos))).dropLast)

structure Selection where
  catalog : Catalog
  available : List Library
  unknown : List String

-- A library that has been taken already may be named again.
def Selection.take (s : Selection) (name : String) : Selection :=
  match s.available.findFinIdx? fun lib => lib.name = name with
  | some i =>
    let taken := swapRemove s.available i
    { s with catalog := s.catalog.add taken.1, available := taken.2 }
  | none =>
    if (s.catalog.library? name).isSome then s
    else { s with unknown := s.unknown ++ [name] }

-- The named libraries in the order of their first mention, and the names of none.
def Catalog.select (names : List String) : Catalog × List String :=
  let selection := names.foldl Selection.take ⟨.empty, Catalog.builtinLibraries, []⟩
  (selection.catalog, selection.unknown)

end FlowDefs
