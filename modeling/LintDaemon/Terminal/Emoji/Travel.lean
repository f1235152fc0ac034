/-!
# Emoji: travel

Vehicles, places to stay, and signs on the way.

* `travelTable`: each emoji and its names.
-/

namespace LintDaemon.Terminal.Emoji

/-- Emoji, each with its names behind it; a colon ends the names. -/
def travelTable : String :=
  "🚀 rocket: 🚁 helicopter: 🚂 locomotive steam_locomotive: 🚃 railway_car:
   🚄 bullettrain_side high-speed_train: 🚅 bullet_train bullettrain_front: 🚆 train2: 🚇 metro:
   🚈 light_rail: 🚉 station: 🚊 tram: 🚋 train tram_car: 🚌 bus: 🚍 oncoming_bus: 🚎 trolleybus:
   🚏 bus_stop busstop: 🚐 minibus: 🚑 ambulance: 🚒 fire_engine: 🚓 police_car: 🚔 oncoming_police_car:
   🚕 taxi: 🚖 oncoming_taxi: 🚗 automobile car red_car: 🚘 oncoming_automobile:
   🚙 blue_car sport_utility_vehicle: 🚚 delivery_truck truck: 🚛 articulated_lorry: 🚜 tractor:
   🚝 monorail: 🚞 mountain_railway: 🚟 suspension_railway: 🚠 mountain_cableway: 🚡 aerial_tramway:
   🚢 ship: 🚣 person_rowing_boat rowboat: 🚤 speedboat: 🚥 horizontal_traffic_light traffic_light:
   🚦 vertical_traffic_light: 🚧 construction: 🚨 police_car_light rotating_light:
   🚩 triangular_flag triangular_flag_on_post: 🚪 door: 🚫 no_entry_sign prohibited:
   🚬 cigarette smoking: 🚭 no_smoking: 🚮 litter_in_bin_sign put_litter_in_its_place:
   🚯 do_not_litter no_littering: 🚰 potable_water: 🚱 non-potable_water non__potable_water:
   🚲 bicycle bike: 🚳 no_bicycles: 🚴 bicyclist person_biking:
   🚵 mountain_bicyclist person_mountain_biking: 🚶 person_walking walking: 🚷 no_pedestrians:
   🚸 children_crossing: 🚹 mens men’s_room: 🚺 womens women’s_room: 🚻 restroom: 🚼 baby_symbol:
   🚽 toilet: 🚾 water_closet wc: 🚿 shower: 🛀 bath person_taking_bath: 🛁 bathtub:
   🛂 passport_control: 🛃 customs: 🛄 baggage_claim: 🛅 left_luggage: 🛋 couch_and_lamp:
   🛌 person_in_bed sleeping_accommodation: 🛍 shopping_bags: 🛎 bellhop_bell: 🛏 bed:
   🛐 place_of_worship: 🛑 stop_sign: 🛒 shopping_cart: 🛕 hindu_temple: 🛠 hammer_and_wrench:
   🛡 shield: 🛢 oil_drum: 🛣 motorway: 🛤 railway_track: 🛥 motor_boat: 🛩 small_airplane:
   🛫 airplane_departure: 🛬 airplane_arrival airplane_arriving: 🛳 passenger_ship: 🛴 kick_scooter:
   🛵 motor_scooter: 🛶 canoe: 🛷 sled: 🛸 flying_saucer: 🛹 skateboard: 🛺 auto_rickshaw:
   🟠 orange_circle: 🟡 yellow_circle: 🟢 green_circle: 🟣 purple_circle: 🟤 brown_circle:
   🟥 red_square: 🟦 blue_square: 🟧 orange_square: 🟨 yellow_square: 🟩 green_square: 🟪 purple_square:
   🟫 brown_square"

end LintDaemon.Terminal.Emoji
