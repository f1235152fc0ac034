/-!
# Emoji: groups

People in pairs and families, at work and in motion.

* `groupsTable`: each emoji and its names.
-/

namespace LintDaemon.Terminal.Emoji

/-- Emoji, each with its names behind it; a colon ends the names. -/
def groupsTable : String :=
  "⛹️‍♀️ woman_bouncing_ball: ⛹️‍♂️ man_bouncing_ball: 🏃‍♀️ woman_running: 🏃‍♂️ man_running:
   🏄‍♀️ woman_surfing: 🏄‍♂️ man_surfing: 🏊‍♀️ woman_swimming: 🏊‍♂️ man_swimming:
   🏋️‍♀️ woman_lifting_weights: 🏋️‍♂️ man_lifting_weights: 🏌️‍♀️ woman_golfing: 🏌️‍♂️ man_golfing:
   🏳️‍🌈 rainbow_flag: 🏴‍☠️ pirate_flag: 🐕‍🦺 service_dog: 👁️‍🗨️ eye_in_speech_bubble:
   👨‍⚕️ man_health_worker: 👨‍⚖️ man_judge: 👨‍✈️ man_pilot: 👨‍❤️‍👨 couple_with_heart_man_man:
   👨‍❤️‍💋‍👨 kiss_man_man: 👨‍🌾 man_farmer: 👨‍🍳 man_cook: 👨‍🎓 man_student: 👨‍🎤 man_singer:
   👨‍🎨 man_artist: 👨‍🏫 man_teacher: 👨‍🏭 man_factory_worker: 👨‍👦 family_man_boy:
   👨‍👦‍👦 family_man_boy_boy: 👨‍👧 family_man_girl: 👨‍👧‍👦 family_man_girl_boy:
   👨‍👧‍👧 family_man_girl_girl: 👨‍👨‍👦 family_man_man_boy: 👨‍👨‍👦‍👦 family_man_man_boy_boy:
   👨‍👨‍👧 family_man_man_girl: 👨‍👨‍👧‍👦 family_man_man_girl_boy: 👨‍👨‍👧‍👧 family_man_man_girl_girl:
   👨‍👩‍👦 family_man_woman_boy: 👨‍👩‍👦‍👦 family_man_woman_boy_boy: 👨‍👩‍👧 family_man_woman_girl:
   👨‍👩‍👧‍👦 family_man_woman_girl_boy: 👨‍👩‍👧‍👧 family_man_woman_girl_girl: 👨‍💻 man_technologist:
   👨‍💼 man_office_worker: 👨‍🔧 man_mechanic: 👨‍🔬 man_scientist: 👨‍🚀 man_astronaut:
   👨‍🚒 man_firefighter: 👨‍🦯 man_with_probing_cane: 👨‍🦰 red-haired_man: 👨‍🦱 curly-haired_man:
   👨‍🦲 bald_man: 👨‍🦳 white-haired_man: 👨‍🦼 man_in_motorized_wheelchair:
   👨‍🦽 man_in_manual_wheelchair: 👩‍⚕️ woman_health_worker: 👩‍⚖️ woman_judge: 👩‍✈️ woman_pilot:
   👩‍❤️‍👨 couple_with_heart_woman_man: 👩‍❤️‍👩 couple_with_heart_woman_woman:
   👩‍❤️‍💋‍👨 kiss_woman_man: 👩‍❤️‍💋‍👩 kiss_woman_woman: 👩‍🌾 woman_farmer: 👩‍🍳 woman_cook:
   👩‍🎓 woman_student: 👩‍🎤 woman_singer: 👩‍🎨 woman_artist: 👩‍🏫 woman_teacher:
   👩‍🏭 woman_factory_worker: 👩‍👦 family_woman_boy: 👩‍👦‍👦 family_woman_boy_boy:
   👩‍👧 family_woman_girl: 👩‍👧‍👦 family_woman_girl_boy: 👩‍👧‍👧 family_woman_girl_girl:
   👩‍👩‍👦 family_woman_woman_boy: 👩‍👩‍👦‍👦 family_woman_woman_boy_boy:
   👩‍👩‍👧 family_woman_woman_girl: 👩‍👩‍👧‍👦 family_woman_woman_girl_boy:
   👩‍👩‍👧‍👧 family_woman_woman_girl_girl: 👩‍💻 woman_technologist: 👩‍💼 woman_office_worker:
   👩‍🔧 woman_mechanic: 👩‍🔬 woman_scientist: 👩‍🚀 woman_astronaut: 👩‍🚒 woman_firefighter:
   👩‍🦯 woman_with_probing_cane: 👩‍🦰 red-haired_woman: 👩‍🦱 curly-haired_woman: 👩‍🦲 bald_woman:
   👩‍🦳 white-haired_woman: 👩‍🦼 woman_in_motorized_wheelchair: 👩‍🦽 woman_in_manual_wheelchair:
   👮‍♀️ woman_police_officer: 👮‍♂️ man_police_officer: 👯‍♀️ women_with_bunny_ears:
   👯‍♂️ men_with_bunny_ears: 👱‍♀️ blond-haired_woman: 👱‍♂️ blond-haired_man:
   👳‍♀️ woman_wearing_turban: 👳‍♂️ man_wearing_turban: 👷‍♀️ woman_construction_worker:
   👷‍♂️ man_construction_worker: 💁‍♀️ woman_tipping_hand: 💁‍♂️ man_tipping_hand: 💂‍♀️ woman_guard:
   💂‍♂️ man_guard: 💆‍♀️ woman_getting_massage: 💆‍♂️ man_getting_massage:
   💇‍♀️ woman_getting_haircut: 💇‍♂️ man_getting_haircut: 🕵️‍♀️ woman_detective:
   🕵️‍♂️ man_detective: 🙅‍♀️ woman_gesturing_no: 🙅‍♂️ man_gesturing_no: 🙆‍♀️ woman_gesturing_ok:
   🙆‍♂️ man_gesturing_ok: 🙇‍♀️ woman_bowing: 🙇‍♂️ man_bowing: 🙋‍♀️ woman_raising_hand:
   🙋‍♂️ man_raising_hand: 🙍‍♀️ woman_frowning: 🙍‍♂️ man_frowning: 🙎‍♀️ woman_pouting:
   🙎‍♂️ man_pouting: 🚣‍♀️ woman_rowing_boat: 🚣‍♂️ man_rowing_boat: 🚴‍♀️ woman_biking:
   🚴‍♂️ man_biking: 🚵‍♀️ woman_mountain_biking: 🚵‍♂️ man_mountain_biking: 🚶‍♀️ woman_walking:
   🚶‍♂️ man_walking: 🤦‍♀️ woman_facepalming: 🤦‍♂️ man_facepalming: 🤷‍♀️ woman_shrugging:
   🤷‍♂️ man_shrugging: 🤸‍♀️ woman_cartwheeling: 🤸‍♂️ man_cartwheeling: 🤹‍♀️ woman_juggling:
   🤹‍♂️ man_juggling: 🤼‍♀️ women_wrestling: 🤼‍♂️ men_wrestling: 🤽‍♀️ woman_playing_water_polo:
   🤽‍♂️ man_playing_water_polo: 🤾‍♀️ woman_playing_handball: 🤾‍♂️ man_playing_handball:
   🧑‍🤝‍🧑 people_holding_hands: 🧖‍♀️ woman_in_steamy_room: 🧖‍♂️ man_in_steamy_room:
   🧗‍♀️ woman_climbing: 🧗‍♂️ man_climbing: 🧘‍♀️ woman_in_lotus_position:
   🧘‍♂️ man_in_lotus_position: 🧙‍♀️ woman_mage: 🧙‍♂️ man_mage: 🧚‍♀️ woman_fairy: 🧚‍♂️ man_fairy:
   🧛‍♀️ woman_vampire: 🧛‍♂️ man_vampire: 🧜‍♀️ mermaid: 🧜‍♂️ merman: 🧝‍♀️ woman_elf: 🧝‍♂️ man_elf:
   🧞‍♀️ woman_genie: 🧞‍♂️ man_genie: 🧟‍♀️ woman_zombie: 🧟‍♂️ man_zombie"

end LintDaemon.Terminal.Emoji
