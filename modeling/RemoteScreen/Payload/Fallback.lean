import RemoteScreen.Descriptor.Response

/-! The response that is shown when none can be fetched. -/
namespace RemoteScreen
namespace Payload

def leaf (id type : String) (properties : List (String × String)) : Descriptor :=
  ⟨id, type, properties.map fun e => (e.1, some e.2), none⟩

def planet (id name description imageUrl : String) : Descriptor :=
  leaf id "planetCard" [("name", name), ("description", description), ("imageUrl", imageUrl)]

def fact (id name value : String) : Descriptor :=
  leaf id "galaxyStats" [("statName", name), ("value", value)]

def container (id type title : String) (children : List Descriptor) : Descriptor :=
  ⟨id, type, [("title", some title)], some children⟩

def fallback : Response where
  source := fallbackSource
  components := [
    container "1" "carousel" "Featured Planets" [
      planet "1a" "Mars" "The Red Planet, fourth from the Sun"
        "https://upload.wikimedia.org/wikipedia/commons/0/0c/Mars_-_August_30_2021_-_Flickr_-_Kevin_M._Gill.png",
      planet "1b" "Jupiter" "The largest planet in our solar system"
        "https://r2.starryai.com/results/1005642157/99ab0279-90a1-46bf-956b-3f71819f2cc1.webp",
      planet "1c" "Saturn" "Known for its prominent ring system"
        "https://t4.ftcdn.net/jpg/05/62/81/71/360_F_562817188_227uy25PA3PNPrDJSw32GmqHZdjXfNyo.jpg"],
    fact "2" "Known Exoplanets" "4,395",
    container "3" "hscroll" "Quick Facts" [
      fact "3a" "Milky Way Diameter" "100,000 ly",
      fact "3b" "Observable Universe" "93 billion ly",
      fact "3c" "Age of Universe" "13.8 billion years"],
    planet "4" "Earth" "Our home planet, teeming with life"
      "https://w0.peakpx.com/wallpaper/168/977/HD-wallpaper-earth-north-america-south-america-continents-universe-earth-from-space-planet.jpg",
    leaf "5" "exploreButton" [("title", "Explore the Cosmos")]]

end Payload
end RemoteScreen
